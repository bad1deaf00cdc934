import CephMount.Spec
import Mathlib.Data.List.Basic

/-!
What the mount data holds: read back at its commas it gives exactly its items, so the flags read
from it are the policy's, whatever the relation holds (`mountData_pieces`).
-/
namespace CephMount

theorem except_bind_eq_ok {ε α β : Type} {x : Except ε α} {f : α → Except ε β} {b : β} :
    x >>= f = .ok b ↔ ∃ a, x = .ok a ∧ f a = .ok b := by
  cases x <;> simp [bind, Except.bind]

theorem except_map_eq_ok {ε α β : Type} {x : Except ε α} {f : α → β} {b : β} :
    f <$> x = .ok b ↔ ∃ a, x = .ok a ∧ f a = b := by
  cases x <;> simp [Functor.map, Except.map]

/-- The pieces of a text between its commas, as a list of mount options is read. -/
def commaPieces (s : String) : List String := (s.toList.splitOn ',').map String.ofList

theorem commaPieces_intercalate {l : List String} (hl : l ≠ [])
    (h : ∀ x ∈ l, ',' ∉ x.toList) : commaPieces (",".intercalate l) = l := by
  have hsep : ",".toList = [','] := rfl
  unfold commaPieces
  rw [String.toList_intercalate, hsep,
    List.splitOn_intercalate ',' (by simpa using h) (by simpa using hl)]
  simp

theorem comma_not_mem_append {a b : String} (ha : ',' ∉ a.toList) (hb : ',' ∉ b.toList) :
    ',' ∉ (a ++ b).toList := by
  simp [ha, hb]

namespace MountOptions

theorem mem_flags {o : MountOptions} {w : String} (h : w ∈ o.flags) :
    w = "noexec" ∨ w = "nosuid" ∨ w = "nodev" ∨ w = "ro" := by
  simp only [flags, table, List.mem_map, List.mem_filter, List.mem_cons,
    List.not_mem_nil, or_false] at h
  obtain ⟨⟨w', b⟩, ⟨hmem, -⟩, rfl⟩ := h
  rcases hmem with h | h | h | h <;> simp_all

theorem comma_not_mem_flags {o : MountOptions} {w : String} (h : w ∈ o.flags) :
    ',' ∉ w.toList := by
  rcases mem_flags h with rfl | rfl | rfl | rfl <;> decide

theorem setWord_of_keyed (o : MountOptions) {w : String} (hw : '=' ∈ w.toList) :
    o.setWord w = o := by
  have hne : ∀ flag : String, '=' ∉ flag.toList → w ≠ flag := fun _ hflag h => hflag (h ▸ hw)
  simp [setWord, hne "noexec" (by decide), hne "nosuid" (by decide), hne "nodev" (by decide),
    hne "ro" (by decide)]

theorem foldl_setWord_keyed (o : MountOptions) {ws : List String}
    (hws : ∀ w ∈ ws, '=' ∈ w.toList) : ws.foldl setWord o = o := by
  induction ws with
  | nil => rfl
  | cons w ws ih =>
    rw [List.foldl_cons, setWord_of_keyed o (hws w List.mem_cons_self)]
    exact ih fun w' hw' => hws w' (List.mem_cons_of_mem _ hw')

theorem ofKernel_keyed_append {ws : List String} (hws : ∀ w ∈ ws, '=' ∈ w.toList)
    (rest : List String) : ofKernel (ws ++ rest) = ofKernel rest := by
  rw [ofKernel, List.foldl_append, foldl_setWord_keyed _ hws]
  rfl

theorem ofKernel_flags (o : MountOptions) : ofKernel o.flags = o := by
  rcases o with ⟨_ | _, _ | _, _ | _, _ | _⟩ <;> rfl

end MountOptions

namespace Facts

def OptionSafe (v : String) : Prop := ∀ c ∈ v.toList, unsafeInOption c = false

theorem OptionSafe.comma_not_mem {v : String} (h : OptionSafe v) : ',' ∉ v.toList :=
  fun hc => absurd (h ',' hc) (by decide)

theorem OptionSafe.not_control {v : String} (h : OptionSafe v) {c : Char} (hc : c ∈ v.toList) :
    Text.isControl c = false := by
  have := h c hc
  simp only [unsafeInOption, Bool.or_eq_false_iff] at this
  exact this.2

theorem defaultUser_safe : OptionSafe defaultUser :=
  @of_decide_eq_true _ (List.decidableBAll _ _) rfl

theorem optionValue_eq_ok {key value v : String} (h : optionValue key value = .ok v) :
    v = value ∧ OptionSafe value := by
  unfold optionValue at h
  split_ifs at h with hany
  cases h
  exact ⟨rfl, by simpa [OptionSafe] using hany⟩

theorem nonEmpty_ne {bag : DataBag} {key v : String} (h : nonEmpty bag key = some v) : v ≠ "" := by
  unfold nonEmpty at h
  split at h
  · split_ifs at h with hv
    cases h
    simpa using hv
  · cases h

/-- What reading the relation guarantees of the values that reach the mount options. -/
structure Checked (f : ConnectionFacts) : Prop where
  authUser : OptionSafe f.authUser
  fsId : OptionSafe f.fsId
  authKey : OptionSafe f.authKey
  fsName : ∀ n, f.fsName = some n → OptionSafe n ∧ n ≠ ""

/-- Facts read from a relation hold only checked option values. -/
theorem parse_checked {bag : DataBag} {f : ConnectionFacts} (h : parse bag = .ok f) :
    Checked f := by
  unfold parse at h
  rw [except_bind_eq_ok] at h; obtain ⟨_, -, h⟩ := h
  rw [except_bind_eq_ok] at h; obtain ⟨fsId, -, h⟩ := h
  rw [except_bind_eq_ok] at h; obtain ⟨authKey, -, h⟩ := h
  rw [except_bind_eq_ok] at h; obtain ⟨exportPath, -, h⟩ := h
  rw [except_bind_eq_ok] at h; obtain ⟨monitors, -, h⟩ := h
  -- A bad export path stops the reading; otherwise the client name and the filesystem name are
  -- read as present or absent, then the fsid and the key.
  cases hgood : goodExportPath exportPath
  · simp [hgood, throw, throwThe, MonadExceptOf.throw, bind, Except.bind] at h
  rcases hu : nonEmpty bag "auth_user" with _ | user <;>
    rcases hn : nonEmpty bag "fs_name" with _ | name <;>
    simp only [hgood, hu, hn, Bool.not_true, Bool.false_eq_true, if_false,
      except_bind_eq_ok] at h <;>
    obtain ⟨user', huser, name', hname, fsId', hfsId, authKey', hkey, hf⟩ := h <;>
    cases hf <;>
    obtain ⟨rfl, hsafeId⟩ := optionValue_eq_ok hfsId <;>
    obtain ⟨rfl, hsafeKey⟩ := optionValue_eq_ok hkey
  · cases huser
    cases hname
    exact ⟨defaultUser_safe, hsafeId, hsafeKey, by simp⟩
  · cases huser
    obtain ⟨n, hread, rfl⟩ := except_map_eq_ok.1 hname
    obtain ⟨rfl, hsafe⟩ := optionValue_eq_ok hread
    exact ⟨defaultUser_safe, hsafeId, hsafeKey, by simpa using ⟨hsafe, nonEmpty_ne hn⟩⟩
  · obtain ⟨rfl, hsafeUser⟩ := optionValue_eq_ok huser
    cases hname
    exact ⟨hsafeUser, hsafeId, hsafeKey, by simp⟩
  · obtain ⟨rfl, hsafeUser⟩ := optionValue_eq_ok huser
    obtain ⟨n, hread, rfl⟩ := except_map_eq_ok.1 hname
    obtain ⟨rfl, hsafe⟩ := optionValue_eq_ok hread
    exact ⟨hsafeUser, hsafeId, hsafeKey, by simpa using ⟨hsafe, nonEmpty_ne hn⟩⟩

end Facts

namespace MountSpec

theorem connectionOptions_eq (c : Connection) (secretFile : String) :
    connectionOptions c secretFile =
      ["name=" ++ c.name, "secretfile=" ++ secretFile, "fsid=" ++ c.fsid] ++
        (c.mdsNamespace.map ("mds_namespace=" ++ ·)).toList := by
  unfold connectionOptions
  cases c.mdsNamespace <;> rfl

theorem keyed_connectionOptions (c : Connection) (secretFile : String) :
    ∀ w ∈ connectionOptions c secretFile, '=' ∈ w.toList := by
  rw [connectionOptions_eq]
  intro w hw
  simp only [List.mem_append, List.mem_cons, List.not_mem_nil, or_false, Option.mem_toList,
    Option.map_eq_some_iff] at hw
  rcases hw with (rfl | rfl | rfl) | ⟨ns, -, rfl⟩ <;> simp

end MountSpec

/-- Whatever relation values the facts were read from, the mount data of their desired mount
splits at its commas into exactly its connection items and then the policy's flags, and the
flags the kernel reads from it are the policy's. -/
theorem mountData_pieces {bag : DataBag} {f : ConnectionFacts} (hf : Facts.parse bag = .ok f)
    (p : MountPolicy) {secretFile : String} (hs : ',' ∉ secretFile.toList) {spec : MountSpec}
    (hspec : MountSpec.ofInputs? (some f) (some p) = some spec) :
    commaPieces (spec.mountData secretFile) =
        ["name=" ++ f.authUser, "secretfile=" ++ secretFile, "fsid=" ++ f.fsId] ++
          (f.fsName.map ("mds_namespace=" ++ ·)).toList ++ spec.options.flags ∧
      MountOptions.ofKernel (commaPieces (spec.mountData secretFile)) = spec.options := by
  have hc := Facts.parse_checked hf
  simp only [MountSpec.ofInputs?, Option.some.injEq] at hspec
  subst hspec
  -- Every item is free of commas: the literal keys, the checked values, the secret file's path
  -- and the flag words.
  have hitems : ∀ x ∈ MountSpec.connectionOptions
      { name := f.authUser, secret := f.authKey, fsid := f.fsId, mdsNamespace := f.fsName }
      secretFile ++ p.options.flags, ',' ∉ x.toList := by
    intro x hx
    rw [MountSpec.connectionOptions_eq] at hx
    simp only [List.mem_append, List.mem_cons, List.not_mem_nil, or_false, Option.mem_toList,
      Option.map_eq_some_iff] at hx
    rcases hx with ((rfl | rfl | rfl) | ⟨ns, hns, rfl⟩) | hflag
    · exact comma_not_mem_append (by decide) hc.authUser.comma_not_mem
    · exact comma_not_mem_append (by decide) hs
    · exact comma_not_mem_append (by decide) hc.fsId.comma_not_mem
    · exact comma_not_mem_append (by decide) ((hc.fsName ns hns).1.comma_not_mem)
    · exact MountOptions.comma_not_mem_flags hflag
  have hpieces := commaPieces_intercalate (by simp [MountSpec.connectionOptions]) hitems
  refine ⟨?_, ?_⟩
  · rw [MountSpec.mountData, hpieces, MountSpec.connectionOptions_eq]
  · rw [MountSpec.mountData, hpieces, MountOptions.ofKernel_keyed_append
      (MountSpec.keyed_connectionOptions _ _), MountOptions.ofKernel_flags]

namespace Facts

/-- Relation data naming a filesystem, with the client name left out. -/
def namedFsBag : DataBag :=
  [("monitor_addresses", "[\"10.0.0.1:6789\"]"), ("fs_id", "abc"), ("auth_key", "AQBsecret=="),
    ("export_path", "/export/data"), ("fs_name", "fs1")]

def namedFsFacts : ConnectionFacts :=
  { monitors := [{ host := "10.0.0.1", port := 6789 }], fsId := "abc", authKey := "AQBsecret==",
    exportPath := "/export/data", authUser := "admin", fsName := some "fs1" }

end Facts

/-- The mount data for a share of a named filesystem, mounted read-only without execution. -/
theorem mountData_pieces_namedFs :
    Facts.parse Facts.namedFsBag = .ok Facts.namedFsFacts ∧
      ',' ∉ "/run/cephfs-client/secret".toList ∧
      MountSpec.ofInputs? (some Facts.namedFsFacts)
          (some { mountpoint := "/data", options := { noexec := true, readOnly := true } }) =
        some { source := "10.0.0.1:6789:/export/data", target := "/data", fstype := "ceph",
               options := { noexec := true, readOnly := true },
               connection := { name := "admin", secret := "AQBsecret==", fsid := "abc",
                               mdsNamespace := some "fs1" } } ∧
      commaPieces (MountSpec.mountData
          { source := "10.0.0.1:6789:/export/data", target := "/data", fstype := "ceph",
            options := { noexec := true, readOnly := true },
            connection := { name := "admin", secret := "AQBsecret==", fsid := "abc",
                            mdsNamespace := some "fs1" } } "/run/cephfs-client/secret") =
          ["name=admin", "secretfile=/run/cephfs-client/secret", "fsid=abc",
            "mds_namespace=fs1", "noexec", "ro"] := by
  have hparse : Facts.parse Facts.namedFsBag = .ok Facts.namedFsFacts := by decide +kernel
  have hspec : MountSpec.ofInputs? (some Facts.namedFsFacts)
      (some { mountpoint := "/data", options := { noexec := true, readOnly := true } }) =
      some { source := "10.0.0.1:6789:/export/data", target := "/data", fstype := "ceph",
             options := { noexec := true, readOnly := true },
             connection := { name := "admin", secret := "AQBsecret==", fsid := "abc",
                             mdsNamespace := some "fs1" } } := by decide +kernel
  refine ⟨hparse, by decide, hspec, ?_⟩
  rw [(mountData_pieces hparse _ (by decide) hspec).1]
  rfl

end CephMount
