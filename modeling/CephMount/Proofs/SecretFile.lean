import CephMount.Proofs.TreeFrame
import CephMount.Proofs.Fingerprint
import CephMount.Host.Mounter
import CephMount.Host.Scripted

/-!
The secret file of a mount: the helper starts with the whole secret in an owner-only file, and no
file is left behind whatever the helper did (`mount_secret_file`).
-/
namespace CephMount

namespace Digest

theorem mem_hexDigest {msg : List Nat} {c : Char} (hc : c ∈ (hexDigest msg).toList) :
    ∃ d < 16, c = Nat.digitChar d := by
  rw [hexDigest, toList_hex, List.mem_flatMap] at hc
  obtain ⟨b, hb, hc⟩ := hc
  have hlt := digest_lt msg b hb
  simp only [List.mem_cons, List.not_mem_nil, or_false] at hc
  rcases hc with rfl | rfl
  · exact ⟨b / 16, by omega, rfl⟩
  · exact ⟨b % 16, Nat.mod_lt _ (by decide), rfl⟩

theorem slash_not_mem_hexDigest (msg : List Nat) : '/' ∉ (hexDigest msg).toList := by
  intro h
  obtain ⟨d, hd, hc⟩ := mem_hexDigest h
  have hdigit : ∀ d < 16, Nat.digitChar d ≠ '/' := by decide
  exact hdigit d hd hc.symm

end Digest

namespace Host

/-- On a host that keeps the files it is given, a change that may stop partway leaves the files
as it left them. -/
theorem Shell.files_onFilesPartly {σ : Type} (sh : Shell σ)
    (hkeep : ∀ t s, sh.files (sh.withFiles t s) = t) (f : FileTree → Except OsError Unit × FileTree)
    (s : σ) : sh.files (sh.onFilesPartly f s).2 = (f (sh.files s)).2 := by
  unfold Shell.onFilesPartly
  rcases f (sh.files s) with ⟨r, t⟩
  exact hkeep t s

namespace Mounter

open FileTree

/-- The secret path is a plain name inside the secret directory. -/
theorem secretPath_plain (mt : Mounter) (target : String) :
    ∃ name, mt.secretPath target = Path.join mt.secretDir name ∧ PlainName name := by
  refine ⟨_, rfl, ?_⟩
  -- The name ends in `.secret`, so it is neither `.` nor `..`, and none of its characters is a
  -- slash.
  have hlen : 7 ≤ (String.ofList ((Digest.hexDigest (Text.utf8Bytes target)).toList.take 16) ++
      ".secret").toList.length := by
    simp
  refine ⟨?_, fun h => ?_, fun h => ?_, fun h => ?_⟩
  · rw [String.toList_append, String.toList_ofList, List.mem_append, not_or]
    exact ⟨fun h => Digest.slash_not_mem_hexDigest _ (List.mem_of_mem_take h), by decide⟩
  all_goals
    rw [h] at hlen
    simp at hlen

theorem getLast?_names_secretPath (mt : Mounter) (target : String) :
    ∃ name, (names (mt.secretPath target)).getLast? = some name ∧ PlainName name := by
  obtain ⟨name, hpath, hplain⟩ := mt.secretPath_plain target
  exact ⟨name, by rw [hpath, getLast?_names_join _ hplain], hplain⟩

theorem trailing_secretPath (mt : Mounter) (target : String) :
    trailing (mt.secretPath target) = false := by
  obtain ⟨name, hpath, hplain⟩ := mt.secretPath_plain target
  rw [hpath, trailing_join _ hplain]

section Keeps

variable {σ : Type} (sh : Shell σ) (mt : Mounter)
  (hkeep : ∀ t s, sh.files (sh.withFiles t s) = t)
include hkeep

/-- Writing the secret file, when it succeeds, gives the secret path and leaves there a file that
holds the whole secret, readable by its owner alone. -/
theorem writeSecretFile_ok {spec : MountSpec} {s s' : σ} {file : String}
    (h : writeSecretFile sh mt spec s = (.ok file, s')) :
    file = mt.secretPath spec.target ∧
      (sh.files s').stat? file = some (.file spec.connection.secret secretMode) := by
  unfold writeSecretFile at h
  rcases hdir : sh.onFilesPartly (·.createDirAllWith mt.secretDir secretDirMode) s with
    ⟨_ | ⟨⟩, s₁⟩
  · rw [hdir] at h
    cases h
  · rw [hdir] at h
    dsimp only at h
    split at h
    · cases h
    · next s₂ hwrite =>
      obtain ⟨hfile, rfl⟩ := Prod.mk.inj h
      obtain rfl := Except.ok.inj hfile
      unfold Shell.onFiles at hwrite
      split at hwrite
      · next t₂ hw =>
        cases hwrite
        obtain ⟨t₁, hw₁, hmode⟩ := except_bind_eq_ok.1 hw
        exact ⟨rfl, by rw [hkeep]; exact stat?_setMode_writeFileWith hw₁ hmode⟩
      · cases hwrite

/-- A secret file write that fails leaves every file as it was: it made directories at most. -/
theorem writeSecretFile_files_of_error {spec : MountSpec} {s s' : σ} {e : Error}
    (h : writeSecretFile sh mt spec s = (.error e, s')) (k : List String) (c : String) (m : Nat) :
    (sh.files s').find? k = some (.file c m) ↔ (sh.files s).find? k = some (.file c m) := by
  have hdirs : (sh.files (sh.onFilesPartly (·.createDirAllWith mt.secretDir secretDirMode) s).2).find?
      k = some (.file c m) ↔ (sh.files s).find? k = some (.file c m) := by
    rw [Shell.files_onFilesPartly sh hkeep]
    exact find?_file_createDirChain _ _ _ _ k c m
  unfold writeSecretFile at h
  rcases hdir : sh.onFilesPartly (·.createDirAllWith mt.secretDir secretDirMode) s with
    ⟨_ | ⟨⟩, s₁⟩
  all_goals
    rw [hdir] at h hdirs
    dsimp only at hdirs
  · obtain ⟨-, rfl⟩ := Prod.mk.inj h
    exact hdirs
  · dsimp only at h
    split at h
    · next e' s₂ hwrite =>
      obtain ⟨-, rfl⟩ := Prod.mk.inj h
      -- A file change that fails changes nothing.
      unfold Shell.onFiles at hwrite
      split at hwrite
      · cases hwrite
      · obtain ⟨-, rfl⟩ := Prod.mk.inj hwrite
        exact hdirs
    · cases h

/-- Once the secret file is removed, no file is found at the secret path, whether the removal
succeeded or found nothing it could remove. -/
theorem isFile_removeSecretFile (target : String) (s : σ) :
    (sh.files (removeSecretFile sh (mt.secretPath target) s)).isFile (mt.secretPath target) =
      false := by
  obtain ⟨name, hlast, hplain⟩ := mt.getLast?_names_secretPath target
  unfold removeSecretFile Shell.onFiles
  split
  · next t hrem =>
    rw [hkeep]
    exact isFile_of_removeFile_ok hrem
  · next e hrem =>
    exact isFile_of_removeFile_error hlast hplain (mt.trailing_secretPath target) hrem

/-- A mount that gets as far as its helper starts it from a host whose secret file holds the
whole secret, readable by its owner alone; it reports what the helper did, and then leaves no
file at the secret path, whatever the helper did to the files. -/
theorem mount_secret_file (spec : MountSpec) {s s₀ s₁ : σ} {file : String}
    (hpoint : createMountPoint sh mt spec.target s = (.ok (), s₀))
    (hwrite : writeSecretFile sh mt spec s₀ = (.ok file, s₁)) :
    file = mt.secretPath spec.target ∧
      (sh.files s₁).stat? file = some (.file spec.connection.secret secretMode) ∧
      (mount sh mt spec s).1 =
        (runMount sh mt spec file s₁).1.mapError (asMountError spec.target) ∧
      (sh.files (mount sh mt spec s).2).isFile file = false := by
  obtain ⟨hpath, hfile⟩ := writeSecretFile_ok sh mt hkeep hwrite
  unfold mount
  rw [hpoint]
  dsimp only
  rw [hwrite]
  dsimp only
  rcases runMount sh mt spec file s₁ with ⟨r, s₂⟩
  refine ⟨hpath, hfile, rfl, ?_⟩
  rw [hpath]
  exact isFile_removeSecretFile sh mt hkeep spec.target s₂

/-- The scripted host keeps the files it is given. -/
example : ∀ t h, ScriptedHost.shell.files (ScriptedHost.shell.withFiles t h) = t :=
  fun _ _ => rfl

end Keeps

end Mounter

end Host

end CephMount
