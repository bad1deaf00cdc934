import CephMount.Proofs.MountData
import CephMount.Proofs.Utf8RoundTrip
import CephMount.Proofs.JsonReading

/-!
What the fingerprint tells apart: for mounts built from facts read from the relation and a valid
policy, the hashed bytes are equal exactly when the mounts agree on every field and on the
digest of the secret (`fingerprintInput_eq_iff`).
-/
namespace CephMount

def NulFree (s : String) : Prop := ∀ c ∈ s.toList, c.toNat ≠ 0

def nulTerminated (fields : List String) : List Nat :=
  fields.flatMap fun f => Text.utf8Bytes f ++ [0]

theorem nulFree_of_not_control {s : String} (h : ∀ c ∈ s.toList, Text.isControl c = false) :
    NulFree s := by
  intro c hc h0
  have := h c hc
  simp [Text.isControl, h0] at this

theorem Facts.OptionSafe.nulFree {v : String} (h : Facts.OptionSafe v) : NulFree v :=
  nulFree_of_not_control fun _ hc => h.not_control hc

/-! ### Bytes -/

namespace Text

theorem utf8Bytes_injective : Function.Injective utf8Bytes := fun a b h => by
  rw [← decodeLossy_utf8Bytes a, h, decodeLossy_utf8Bytes]

theorem zero_not_mem_utf8Bytes {s : String} (h : NulFree s) : 0 ∉ utf8Bytes s := by
  intro h0
  simp only [utf8Bytes, List.mem_map, List.mem_flatMap] at h0
  obtain ⟨b, ⟨c, hc, hb⟩, hb0⟩ := h0
  exact h c hc ((utf8EncodeChar_of_mem_ascii hb (by omega)).2.trans hb0)

end Text

theorem append_cons_inj_of_not_mem {α : Type} {x₁ x₂ z₁ z₂ : List α} {a : α} (h₁ : a ∉ x₁)
    (h₂ : a ∉ x₂) (h : x₁ ++ a :: z₁ = x₂ ++ a :: z₂) : x₁ = x₂ ∧ z₁ = z₂ := by
  induction x₁ generalizing x₂ with
  | nil =>
    cases x₂ with
    | nil => exact ⟨rfl, by simpa using h⟩
    | cons b x₂ =>
      simp only [List.nil_append, List.cons_append, List.cons.injEq] at h
      exact absurd (List.mem_cons.2 (.inl h.1)) h₂
  | cons c x₁ ih =>
    cases x₂ with
    | nil =>
      simp only [List.nil_append, List.cons_append, List.cons.injEq] at h
      exact absurd (List.mem_cons.2 (.inl h.1.symm)) h₁
    | cons d x₂ =>
      simp only [List.cons_append, List.cons.injEq] at h
      obtain ⟨rfl, h⟩ := h
      obtain ⟨rfl, rfl⟩ := ih (fun h' => h₁ (List.mem_cons_of_mem _ h'))
        (fun h' => h₂ (List.mem_cons_of_mem _ h')) h
      exact ⟨rfl, rfl⟩

theorem nulTerminated_snoc (fields : List String) (x : String) :
    nulTerminated (fields ++ [x]) = nulTerminated fields ++ (Text.utf8Bytes x ++ [0]) := by
  simp [nulTerminated]

theorem nulTerminated_eq_dropLast {fields : List String} (h : fields ≠ []) :
    nulTerminated fields = (nulTerminated fields).dropLast ++ [0] := by
  obtain ⟨init, x, rfl⟩ := (List.eq_nil_or_concat fields).resolve_left h
  rw [List.concat_eq_append, nulTerminated_snoc, ← List.append_assoc, List.dropLast_concat]

theorem nulTerminated_snoc_inj {xs ys : List String} {x y : String} (hxs : xs ≠ []) (hys : ys ≠ [])
    (hx : NulFree x) (hy : NulFree y)
    (h : nulTerminated (xs ++ [x]) = nulTerminated (ys ++ [y])) :
    nulTerminated xs = nulTerminated ys ∧ x = y := by
  rw [nulTerminated_snoc, nulTerminated_snoc, nulTerminated_eq_dropLast hxs,
    nulTerminated_eq_dropLast hys] at h
  -- Without the final NUL, and read backwards, the field runs up to the first NUL.
  have hcut : (nulTerminated xs).dropLast ++ 0 :: Text.utf8Bytes x =
      (nulTerminated ys).dropLast ++ 0 :: Text.utf8Bytes y := by
    have h' : ((nulTerminated xs).dropLast ++ 0 :: Text.utf8Bytes x) ++ [0] =
        ((nulTerminated ys).dropLast ++ 0 :: Text.utf8Bytes y) ++ [0] := by
      simpa [List.append_assoc] using h
    exact List.append_cancel_right h'
  have hrev := congrArg List.reverse hcut
  simp only [List.reverse_append, List.reverse_cons, List.append_assoc,
    List.singleton_append] at hrev
  obtain ⟨hfield, hrest⟩ := append_cons_inj_of_not_mem
    (by simpa using Text.zero_not_mem_utf8Bytes hx)
    (by simpa using Text.zero_not_mem_utf8Bytes hy) hrev
  refine ⟨?_, Text.utf8Bytes_injective (List.reverse_injective hfield)⟩
  rw [nulTerminated_eq_dropLast hxs, nulTerminated_eq_dropLast hys, List.reverse_injective hrest]

/-- Fields of which all but the first are free of NUL characters come back from their bytes. -/
theorem nulTerminated_cons_inj {a b : String} {ts us : List String} (hlen : ts.length = us.length)
    (hts : ∀ t ∈ ts, NulFree t) (hus : ∀ u ∈ us, NulFree u) :
    nulTerminated (a :: ts) = nulTerminated (b :: us) ↔ a = b ∧ ts = us := by
  refine ⟨fun h => ?_, fun ⟨hab, htu⟩ => hab ▸ htu ▸ rfl⟩
  induction ts using List.reverseRecOn generalizing us with
  | nil =>
    rw [List.length_nil, eq_comm, List.length_eq_zero_iff] at hlen
    subst hlen
    simp only [nulTerminated, List.flatMap_cons, List.flatMap_nil, List.append_nil,
      List.append_cancel_right_eq] at h
    exact ⟨Text.utf8Bytes_injective h, rfl⟩
  | append_singleton ts t ih =>
    obtain ⟨us, u, rfl⟩ := (List.eq_nil_or_concat us).resolve_left (by
      rintro rfl
      simp at hlen)
    rw [List.concat_eq_append] at hlen hus h ⊢
    rw [← List.cons_append, ← List.cons_append] at h
    obtain ⟨hinit, rfl⟩ := nulTerminated_snoc_inj (List.cons_ne_nil _ _) (List.cons_ne_nil _ _)
      (hts t (by simp)) (hus u (by simp)) h
    obtain ⟨rfl, rfl⟩ := ih (by simpa using hlen) (fun x hx => hts x (by simp [hx]))
      (fun x hx => hus x (by simp [hx])) hinit
    exact ⟨rfl, rfl⟩

/-! ### Paths -/

theorem mem_intercalate_of_mem {α : Type} {sep p : List α} {L : List (List α)} {x : α}
    (hx : x ∈ p) (hp : p ∈ L) : x ∈ sep.intercalate L := by
  induction L with
  | nil => cases hp
  | cons q L ih =>
    rcases L with _ | ⟨r, L⟩
    · rw [List.mem_singleton.1 hp] at hx
      simpa using hx
    rw [List.intercalate_cons_of_ne_nil (List.cons_ne_nil r L)]
    rcases List.mem_cons.1 hp with rfl | hp
    · exact List.mem_append_left _ (List.mem_append_left _ hx)
    · exact List.mem_append_right _ (ih hp)

theorem mem_of_mem_intercalate {α : Type} {sep : List α} {L : List (List α)} {x : α}
    (hx : x ∈ sep.intercalate L) : x ∈ sep ∨ ∃ p ∈ L, x ∈ p := by
  induction L with
  | nil => cases hx
  | cons q L ih =>
    rcases L with _ | ⟨r, L⟩
    · exact .inr ⟨q, List.mem_singleton_self q, by simpa using hx⟩
    rw [List.intercalate_cons_of_ne_nil (List.cons_ne_nil r L)] at hx
    rcases List.mem_append.1 hx with hx | hx
    · rcases List.mem_append.1 hx with hx | hx
      · exact .inr ⟨q, List.mem_cons_self, hx⟩
      · exact .inl hx
    · rcases ih hx with hx | ⟨p, hp, hxp⟩
      · exact .inl hx
      · exact .inr ⟨p, List.mem_cons_of_mem _ hp, hxp⟩

theorem mem_of_mem_splitOn {l p : List Char} {a x : Char} (hp : p ∈ l.splitOn a) (hx : x ∈ p) :
    x ∈ l := by
  have hl : [a].intercalate (l.splitOn a) = l := List.intercalate_splitOn a
  rw [← hl]
  exact mem_intercalate_of_mem hx hp

namespace Path

theorem ofPiece_text {piece : List Char} {comp : Component} (h : Component.ofPiece piece = some comp) :
    comp.text.toList = piece := by
  unfold Component.ofPiece at h
  split_ifs at h with hskip hparent
  · cases h
    simp [Component.text, hparent]
  · cases h
    simp [Component.text]

theorem mem_of_mem_components {s : String} {comp : Component} (hcomp : comp ∈ components s)
    {c : Char} (hc : c ∈ comp.text.toList) : c ∈ s.toList := by
  have hpieces : ∀ ps : List (List Char), (∀ p ∈ ps, p ∈ s.toList.splitOn '/') →
      comp ∈ ps.filterMap Component.ofPiece → c ∈ s.toList := by
    intro ps hps hmem
    obtain ⟨p, hp, hof⟩ := List.mem_filterMap.1 hmem
    exact mem_of_mem_splitOn (hps p hp) (ofPiece_text hof ▸ hc)
  unfold components at hcomp
  dsimp only at hcomp
  split at hcomp
  · rename_i rest hroot
    rcases List.mem_cons.1 hcomp with rfl | hcomp
    · simp only [Component.text] at hc
      rw [hroot, List.mem_singleton.1 hc]
      exact List.mem_cons_self
    · exact hpieces _ (fun p hp => List.mem_of_mem_drop hp) hcomp
  · split at hcomp
    · rename_i rest hdot
      rcases List.mem_cons.1 hcomp with rfl | hcomp
      · simp only [Component.text] at hc
        rw [List.mem_singleton.1 hc]
        exact mem_of_mem_splitOn (by rw [hdot]; exact List.mem_cons_self) List.mem_cons_self
      · exact hpieces _ (fun p hp => hdot ▸ List.mem_cons_of_mem _ hp) hcomp
    · exact hpieces _ (fun _ hp => hp) hcomp

theorem mem_ofComponents {cs : List Component} {c : Char} (hc : c ∈ (ofComponents cs).toList) :
    c = '/' ∨ ∃ comp ∈ cs, c ∈ comp.text.toList := by
  have hjoin : ∀ rest : List Component,
      c ∈ ("/".intercalate (rest.map Component.text)).toList →
        c = '/' ∨ ∃ comp ∈ rest, c ∈ comp.text.toList := by
    intro rest h
    rw [String.toList_intercalate] at h
    rcases mem_of_mem_intercalate h with h | ⟨p, hp, hcp⟩
    · exact .inl (by simpa using h)
    · obtain ⟨comp, hcomp, rfl⟩ := List.mem_map.1 (List.map_map ▸ hp)
      exact .inr ⟨comp, hcomp, hcp⟩
  unfold ofComponents at hc
  split at hc
  · rw [String.toList_append, List.mem_append] at hc
    rcases hc with hc | hc
    · exact .inl (by simpa using hc)
    · exact (hjoin _ hc).imp_right fun ⟨comp, hcomp, h⟩ => ⟨comp, List.mem_cons_of_mem _ hcomp, h⟩
  · exact hjoin _ hc

end Path

/-- A validated mountpoint is made of characters of the configured text, which holds no blank or
control character. -/
theorem validateMountpoint_chars {raw p : String} (h : validateMountpoint raw = .ok p) :
    ∀ c ∈ p.toList, c ∈ raw.toList ∧ Text.isBlank c = false ∧ Text.isControl c = false := by
  unfold validateMountpoint at h
  dsimp only at h
  split_ifs at h with hempty habs hbad
  cases h
  have hclean : ∀ c ∈ raw.toList, Text.isBlank c = false ∧ Text.isControl c = false := by
    simpa using hbad
  have hslash : '/' ∈ raw.toList := List.mem_of_mem_head? (by simpa using habs)
  intro c hc
  have hraw : c ∈ raw.toList := by
    rcases Path.mem_ofComponents hc with rfl | ⟨comp, hcomp, hcc⟩
    · exact hslash
    · exact Path.mem_of_mem_components (List.mem_of_mem_filter hcomp) hcc
  exact ⟨hraw, hclean c hraw⟩

/-! ### Desired mounts -/

namespace MountOptions

theorem ofKernel_commaPieces_optionString (o : MountOptions) :
    ofKernel (commaPieces o.optionString) = o := by
  rcases o with ⟨_ | _, _ | _, _ | _, _ | _⟩ <;> rfl

theorem optionString_injective : Function.Injective optionString := fun a b h => by
  rw [← ofKernel_commaPieces_optionString a, h, ofKernel_commaPieces_optionString]

theorem optionString_nulFree (o : MountOptions) : NulFree o.optionString := by
  rcases o with ⟨_ | _, _ | _, _ | _, _ | _⟩ <;>
    exact @of_decide_eq_true _ (List.decidableBAll _ _) rfl

end MountOptions

namespace Digest

theorem digest_lt (msg : List Nat) : ∀ b ∈ digest msg, b < 256 := by
  intro b hb
  simp only [digest, List.mem_flatMap, List.mem_cons, List.not_mem_nil, or_false] at hb
  obtain ⟨w, -, hb⟩ := hb
  rcases hb with rfl | rfl | rfl | rfl <;> exact Nat.mod_lt _ (by decide)

theorem digitChar_injective {a b : Nat} (ha : a < 16) (hb : b < 16)
    (h : Nat.digitChar a = Nat.digitChar b) : a = b := by
  have hread := Json.Decoder.hexOf_digitChar ha
  rw [h, Json.Decoder.hexOf_digitChar hb] at hread
  exact (Option.some.inj hread).symm

theorem toList_hex (bytes : List Nat) :
    (hex bytes).toList = bytes.flatMap fun b => [Nat.digitChar (b / 16), Nat.digitChar (b % 16)] :=
  String.toList_ofList

theorem hex_injective {a b : List Nat} (ha : ∀ x ∈ a, x < 256) (hb : ∀ x ∈ b, x < 256)
    (h : hex a = hex b) : a = b := by
  rw [← String.toList_inj, toList_hex, toList_hex] at h
  induction a generalizing b with
  | nil =>
    cases b with
    | nil => rfl
    | cons y b => simp at h
  | cons x a ih =>
    cases b with
    | nil => simp at h
    | cons y b =>
      simp only [List.flatMap_cons, List.cons_append, List.nil_append, List.cons.injEq] at h
      have hx := ha x List.mem_cons_self
      have hy := hb y List.mem_cons_self
      have hhigh := digitChar_injective (by omega) (by omega) h.1
      have hlow := digitChar_injective (Nat.mod_lt _ (by decide)) (Nat.mod_lt _ (by decide)) h.2.1
      rw [ih (fun z hz => ha z (List.mem_cons_of_mem _ hz)) (fun z hz => hb z (List.mem_cons_of_mem _ hz))
        h.2.2]
      congr 1
      omega

theorem hexDigest_nulFree (msg : List Nat) : NulFree (hexDigest msg) := by
  intro c hc
  rw [hexDigest, toList_hex, List.mem_flatMap] at hc
  obtain ⟨b, hb, hc⟩ := hc
  have hdigit : ∀ d < 16, (Nat.digitChar d).toNat ≠ 0 := by decide
  have hlt := digest_lt msg b hb
  simp only [List.mem_cons, List.not_mem_nil, or_false] at hc
  rcases hc with rfl | rfl
  · exact hdigit _ (by omega)
  · exact hdigit _ (Nat.mod_lt _ (by decide))

end Digest

namespace MountSpec

/-- A desired mount built from facts that reading the relation accepted and a policy that
validation accepted. -/
def FromInputs (s : MountSpec) : Prop :=
  ∃ bag f config p, Facts.parse bag = .ok f ∧ validatePolicy config = .ok p ∧
    ofInputs? (some f) (some p) = some s

/-- What such a desired mount guarantees of the fields its fingerprint hashes. -/
structure Sound (s : MountSpec) : Prop where
  target : NulFree s.target
  fstype : s.fstype = cephType
  name : NulFree s.connection.name
  fsid : NulFree s.connection.fsid
  mdsNamespace : ∀ n, s.connection.mdsNamespace = some n → NulFree n ∧ n ≠ ""

theorem FromInputs.sound {s : MountSpec} (h : s.FromInputs) : s.Sound := by
  obtain ⟨bag, f, config, p, hf, hp, hs⟩ := h
  have hc := Facts.parse_checked hf
  simp only [ofInputs?, Option.some.injEq] at hs
  subst hs
  have htarget : NulFree p.mountpoint := by
    cases config with
    | none => cases hp
    | some c =>
      simp only [validatePolicy, PolicyConfig.validate, bind, Except.bind] at hp
      split at hp
      · cases hp
      · rename_i mountpoint hv
        cases hp
        exact nulFree_of_not_control fun c hc => (validateMountpoint_chars hv c hc).2.2
  exact ⟨htarget, rfl, hc.authUser.nulFree, hc.fsId.nulFree,
    fun n hn => ⟨((hc.fsName n hn).1).nulFree, (hc.fsName n hn).2⟩⟩

theorem fingerprintInput_eq (s : MountSpec) :
    s.fingerprintInput = nulTerminated (s.source :: [s.target, s.fstype, s.options.optionString,
      s.connection.name, s.connection.fsid, s.connection.mdsNamespace.getD "",
      Digest.hexDigest (Text.utf8Bytes s.connection.secret)]) :=
  rfl

theorem Sound.fields_nulFree {s : MountSpec} (h : s.Sound) :
    ∀ t ∈ [s.target, s.fstype, s.options.optionString, s.connection.name, s.connection.fsid,
      s.connection.mdsNamespace.getD "", Digest.hexDigest (Text.utf8Bytes s.connection.secret)],
      NulFree t := by
  intro t ht
  simp only [List.mem_cons, List.not_mem_nil, or_false] at ht
  rcases ht with rfl | rfl | rfl | rfl | rfl | rfl | rfl
  · exact h.target
  · rw [h.fstype]
    exact @of_decide_eq_true _ (List.decidableBAll _ _) rfl
  · exact MountOptions.optionString_nulFree _
  · exact h.name
  · exact h.fsid
  · cases hns : s.connection.mdsNamespace with
    | none => simp [NulFree]
    | some n => exact (h.mdsNamespace n hns).1
  · exact Digest.hexDigest_nulFree _

theorem Sound.getD_mdsNamespace_inj {s₁ s₂ : MountSpec} (h₁ : s₁.Sound) (h₂ : s₂.Sound)
    (h : s₁.connection.mdsNamespace.getD "" = s₂.connection.mdsNamespace.getD "") :
    s₁.connection.mdsNamespace = s₂.connection.mdsNamespace := by
  cases hn₁ : s₁.connection.mdsNamespace <;> cases hn₂ : s₂.connection.mdsNamespace <;>
    simp only [hn₁, hn₂, Option.getD_none, Option.getD_some] at h
  · rfl
  · exact absurd h.symm (h₂.mdsNamespace _ hn₂).2
  · exact absurd h (h₁.mdsNamespace _ hn₁).2
  · rw [h]

end MountSpec

/-- Two desired mounts built from read facts and valid policies hash the same bytes exactly when
they agree on source, target, flags, client name, fsid, namespace and the digest of the secret. -/
theorem fingerprintInput_eq_iff {s₁ s₂ : MountSpec} (h₁ : s₁.FromInputs) (h₂ : s₂.FromInputs) :
    s₁.fingerprintInput = s₂.fingerprintInput ↔
      s₁.source = s₂.source ∧ s₁.target = s₂.target ∧ s₁.options = s₂.options ∧
        s₁.connection.name = s₂.connection.name ∧ s₁.connection.fsid = s₂.connection.fsid ∧
        s₁.connection.mdsNamespace = s₂.connection.mdsNamespace ∧
        Digest.digest (Text.utf8Bytes s₁.connection.secret) =
          Digest.digest (Text.utf8Bytes s₂.connection.secret) := by
  have hs₁ := h₁.sound
  have hs₂ := h₂.sound
  rw [MountSpec.fingerprintInput_eq, MountSpec.fingerprintInput_eq,
    nulTerminated_cons_inj (by simp) hs₁.fields_nulFree hs₂.fields_nulFree]
  simp only [List.cons.injEq, and_true]
  constructor
  · rintro ⟨hsource, htarget, -, hoptions, hname, hfsid, hns, hdigest⟩
    exact ⟨hsource, htarget, MountOptions.optionString_injective hoptions, hname, hfsid,
      hs₁.getD_mdsNamespace_inj hs₂ hns,
      Digest.hex_injective (Digest.digest_lt _) (Digest.digest_lt _) hdigest⟩
  · rintro ⟨hsource, htarget, hoptions, hname, hfsid, hns, hdigest⟩
    exact ⟨hsource, htarget, hs₁.fstype.trans hs₂.fstype.symm, by rw [hoptions], hname, hfsid,
      by rw [hns], by rw [Digest.hexDigest, Digest.hexDigest, hdigest]⟩

namespace MountSpec

/-- The share of `Facts.namedFsFacts` on `/data`, with a given key. -/
def namedFsWithKey (key : String) : MountSpec :=
  { source := "10.0.0.1:6789:/export/data", target := "/data", fstype := "ceph", options := {},
    connection := { name := "admin", secret := key, fsid := "abc", mdsNamespace := some "fs1" } }

end MountSpec

/-- A desired mount and the same mount after its key was rotated. -/
theorem fingerprintInput_eq_iff_rotatedKey :
    (MountSpec.namedFsWithKey "AQBsecret==").FromInputs ∧
      (MountSpec.namedFsWithKey "AQBother==").FromInputs ∧
      ((MountSpec.namedFsWithKey "AQBsecret==").fingerprintInput =
          (MountSpec.namedFsWithKey "AQBother==").fingerprintInput ↔
        "10.0.0.1:6789:/export/data" = "10.0.0.1:6789:/export/data" ∧ "/data" = "/data" ∧
          ({} : MountOptions) = {} ∧ "admin" = "admin" ∧ "abc" = "abc" ∧ some "fs1" = some "fs1" ∧
          Digest.digest (Text.utf8Bytes "AQBsecret==") =
            Digest.digest (Text.utf8Bytes "AQBother==")) := by
  have h₁ : (MountSpec.namedFsWithKey "AQBsecret==").FromInputs :=
    ⟨Facts.namedFsBag, Facts.namedFsFacts, some { mountpoint := some "/data" },
      { mountpoint := "/data", options := {} }, by decide +kernel, by decide +kernel,
      by decide +kernel⟩
  have h₂ : (MountSpec.namedFsWithKey "AQBother==").FromInputs :=
    ⟨[("monitor_addresses", "[\"10.0.0.1:6789\"]"), ("fs_id", "abc"), ("auth_key", "AQBother=="),
        ("export_path", "/export/data"), ("fs_name", "fs1")],
      { Facts.namedFsFacts with authKey := "AQBother==" }, some { mountpoint := some "/data" },
      { mountpoint := "/data", options := {} }, by decide +kernel, by decide +kernel,
      by decide +kernel⟩
  exact ⟨h₁, h₂, fingerprintInput_eq_iff h₁ h₂⟩

end CephMount
