import CephMount.Json.Read
import CephMount.Json.Write
import CephMount.Proofs.AddressText
import Mathlib.Tactic.IntervalCases

/-!
Reading printed JSON back. `Reads d text a` says that `d` takes `text` after any blanks and
yields `a`; strings, 64-bit naturals and objects read back from their printed forms.
-/
namespace CephMount.Json

namespace Decoder

theorem bind_of_ok {α β : Type} {x : Decoder α} {f : α → Decoder β} {cs cs' : List Char} {a : α}
    (h : x cs = .ok (a, cs')) : (x >>= f) cs = f a cs' := by
  show (do let (a, s) ← x cs; f a s : Except DecodeError (β × List Char)) = _
  rw [h]
  rfl

def Blanks (ws : List Char) : Prop := ∀ c ∈ ws, isBlank c = true

theorem peekToken_blanks {ws : List Char} (hws : Blanks ws) {c : Char} (hc : isBlank c = false)
    (rest : List Char) : peekToken (ws ++ c :: rest) = .ok (some c, c :: rest) := by
  have hdrop : (ws ++ c :: rest).dropWhile isBlank = c :: rest := by
    rw [List.dropWhile_append_of_pos hws]
    simp [hc]
  simp [peekToken, hdrop]

theorem peekToken_cons {c : Char} (hc : isBlank c = false) (rest : List Char) :
    peekToken (c :: rest) = .ok (some c, c :: rest) := by
  simp [peekToken, hc]

theorem advance_cons (c : Char) (rest : List Char) : advance (c :: rest) = .ok ((), rest) := rfl

theorem hexOf_digitChar {d : Nat} (hd : d < 16) : hexOf (Nat.digitChar d) = some d := by
  interval_cases d <;> rfl

theorem controlDigits {n : Nat} (hn : n < 32) :
    List.replicate (2 - (Nat.toDigits 16 n).length) '0' ++ Nat.toDigits 16 n =
      [Nat.digitChar (n / 16), Nat.digitChar (n % 16)] := by
  by_cases hsmall : n < 16
  · rw [Nat.toDigits_of_lt_base hsmall, Nat.div_eq_of_lt hsmall, Nat.mod_eq_of_lt hsmall]
    rfl
  · have hhigh : n / 16 = 1 := by omega
    rw [Nat.toDigits_eq_if (by norm_num), if_neg hsmall, hhigh]
    rfl

theorem unicodeEscape_control {n : Nat} (hn : n < 32) (rest : List Char) :
    unicodeEscape ('0' :: '0' :: Nat.digitChar (n / 16) :: Nat.digitChar (n % 16) :: rest) =
      .ok (Char.ofNat n, rest) := by
  have hhex : hexEscape ('0' :: '0' :: Nat.digitChar (n / 16) :: Nat.digitChar (n % 16) :: rest) =
      .ok (n, rest) := by
    have h0 : hexOf '0' = some 0 := rfl
    simp only [hexEscape, h0, hexOf_digitChar (by omega : n / 16 < 16),
      hexOf_digitChar (by omega : n % 16 < 16)]
    congr 2
    omega
  simp only [unicodeEscape, hhex, bind, Except.bind]
  rw [if_neg (by omega), if_pos (by omega)]

theorem go_escapeChar (c : Char) (fuel : Nat) (more acc : List Char) :
    stringChars.go (fuel + 1) (escapeChar c ++ more) acc = stringChars.go fuel more (c :: acc) := by
  unfold escapeChar
  split_ifs with hquote hback hb ht hn hf hr hctl
  · subst hquote; rfl
  · subst hback; rfl
  · obtain rfl : c = Char.ofNat 8 := by rw [← hb, Char.ofNat_toNat]
    rfl
  · subst ht; rfl
  · subst hn; rfl
  · obtain rfl : c = Char.ofNat 12 := by rw [← hf, Char.ofNat_toNat]
    rfl
  · subst hr; rfl
  · have hesc : (['\\', 'u', '0', '0'] ++ List.replicate (2 - (Nat.toDigits 16 c.toNat).length) '0' ++
        Nat.toDigits 16 c.toNat) ++ more = '\\' :: 'u' :: '0' :: '0' ::
          Nat.digitChar (c.toNat / 16) :: Nat.digitChar (c.toNat % 16) :: more := by
      simp only [List.append_assoc]
      rw [← List.append_assoc (List.replicate _ '0'), controlDigits hctl]
      rfl
    rw [hesc]
    simp only [stringChars.go, unicodeEscape_control hctl, Char.ofNat_toNat]
    rfl
  · simp [stringChars.go, hquote, hback, hctl]

theorem stringChars_go_escaped (s rest acc : List Char) (fuel : Nat)
    (hfuel : (s.flatMap escapeChar).length < fuel) :
    stringChars.go fuel (s.flatMap escapeChar ++ '"' :: rest) acc = .ok (acc.reverse ++ s, rest) := by
  induction s generalizing acc fuel with
  | nil =>
    obtain ⟨fuel, rfl⟩ : ∃ f, fuel = f + 1 := ⟨fuel - 1, by simp at hfuel; omega⟩
    simp [stringChars.go]
  | cons c s ih =>
    obtain ⟨fuel, rfl⟩ : ∃ f, fuel = f + 1 := ⟨fuel - 1, by simp at hfuel; omega⟩
    have hlen : 0 < (escapeChar c).length := by
      unfold escapeChar
      split_ifs <;> simp
    rw [List.flatMap_cons, List.append_assoc, go_escapeChar, ih]
    · simp
    · simp only [List.flatMap_cons, List.length_append] at hfuel
      omega

theorem stringBody_quoted (s : String) (rest : List Char) :
    stringBody ((s.toList.flatMap escapeChar ++ '"' :: rest)) = .ok (s, rest) := by
  have hgo := stringChars_go_escaped s.toList rest [] (s.toList.flatMap escapeChar ++ '"' :: rest).length
    (by simp)
  simp only [stringBody, stringChars, hgo]
  simp [bind, Except.bind, pure, Except.pure]

theorem isDigit_digitChar {d : Nat} (hd : d < 10) : isDigit (Nat.digitChar d) = true := by
  interval_cases d <;> rfl

theorem digitOf_digitChar {d : Nat} (hd : d < 10) : digitOf (Nat.digitChar d) = d := by
  interval_cases d <;> rfl

theorem le_foldl_digits (ds : List Nat) (acc : Nat) :
    acc ≤ ds.foldl (fun a d => a * 10 + d) acc := by
  induction ds generalizing acc with
  | nil => exact le_refl acc
  | cons d ds ih =>
    calc acc ≤ acc * 10 + d := by omega
      _ ≤ _ := ih (acc * 10 + d)

theorem significandDigits_digits (sig : Nat) {ds : List Nat} (hds : ∀ d ∈ ds, d < 10)
    {rest : List Char} (hrest : ∀ c ∈ rest.head?, isDigit c = false)
    (hfit : ds.foldl (fun a d => a * 10 + d) sig ≤ maxU64) :
    significandDigits sig (ds.map Nat.digitChar ++ rest) =
      (ds.foldl (fun a d => a * 10 + d) sig, ds.length, false, rest) := by
  induction ds generalizing sig with
  | nil =>
    cases rest with
    | nil => rfl
    | cons c rest => simp [significandDigits, hrest c rfl]
  | cons d ds ih =>
    have hd := hds d (by simp)
    have hstep : sig * 10 + d ≤ maxU64 := (le_foldl_digits ds _).trans hfit
    simp only [List.map_cons, List.cons_append, significandDigits, isDigit_digitChar hd,
      digitOf_digitChar hd, if_true, if_neg (by omega : ¬ maxU64 < sig * 10 + d),
      ih (sig * 10 + d) (fun d' h' => hds d' (by simp [h'])) hfit, List.length_cons, List.foldl_cons]

/-- What may follow a number: no digit, and no start of a fraction or an exponent. -/
def NumberEnd (rest : List Char) : Prop :=
  ∀ c ∈ rest.head?, isDigit c = false ∧ c ≠ '.' ∧ c ≠ 'e' ∧ c ≠ 'E'

theorem afterInteger_nat (sig : Nat) {rest : List Char} (h : NumberEnd rest) :
    afterInteger true sig 0 rest = .ok (.nat sig, rest) := by
  unfold afterInteger
  rw [bind_of_ok (rfl : peek rest = .ok (rest.head?, rest))]
  cases rest with
  | nil => rfl
  | cons c rest =>
    obtain ⟨-, hdot, he, hE⟩ := h c rfl
    simp [hdot, he, hE]
    rfl

theorem number_natText {n : Nat} (hn : n ≤ maxU64) {rest : List Char} (h : NumberEnd rest) :
    number true ((natText n).toList ++ rest) = .ok (.nat n, rest) := by
  obtain ⟨ds, hds, hlt, hval, hhead⟩ := Net.toDigits_eq_map (by norm_num : 1 < 10) n
  rcases ds with _ | ⟨d, ds⟩
  · exact absurd hds Nat.toDigits_ne_nil
  have hd : d < 10 := hlt d (by simp)
  have htext : (natText n).toList ++ rest = Nat.digitChar d :: (ds.map Nat.digitChar ++ rest) := by
    simp [natText, hds]
  rw [htext]
  unfold number
  rw [bind_of_ok (rfl : next? (Nat.digitChar d :: (ds.map Nat.digitChar ++ rest)) =
    .ok (some (Nat.digitChar d), ds.map Nat.digitChar ++ rest))]
  have hdigits : ∀ c ∈ rest.head?, isDigit c = false := fun c hc => (h c hc).1
  by_cases hd0 : d = 0
  · subst hd0
    have hn0 : n = 0 := hhead rfl
    subst hn0
    obtain rfl : ds = [] := by simpa using hds
    have h0 : Nat.digitChar 0 = '0' := rfl
    simp only [List.map_nil, List.nil_append, h0, List.head?_cons, List.tail_cons]
    rw [bind_of_ok (rfl : peek rest = .ok (rest.head?, rest))]
    cases rest with
    | nil => exact afterInteger_nat 0 h
    | cons c r =>
      simp only [List.head?_cons, hdigits c rfl]
      exact afterInteger_nat 0 h
  · -- a first digit other than zero starts the significand, which takes every digit
    have hne0 : Nat.digitChar d ≠ '0' := by
      intro h0
      have := digitOf_digitChar hd
      rw [h0] at this
      exact hd0 this.symm
    have hval' : ds.foldl (fun a d => a * 10 + d) d = n := by
      simpa [Net.digitsValue] using hval
    have hsig := significandDigits_digits d (fun d' h' => hlt d' (by simp [h'])) hdigits
      (hval' ▸ hn)
    rw [hval'] at hsig
    simp only [List.head?_cons, List.tail_cons, isDigit_digitChar hd, digitOf_digitChar hd,
      Bool.not_true, Bool.false_eq_true, ↓reduceIte]
    rw [bind_of_ok (rfl : (get : Decoder (List Char)) (ds.map Nat.digitChar ++ rest) =
      .ok (ds.map Nat.digitChar ++ rest, ds.map Nat.digitChar ++ rest))]
    simp only [hsig]
    rw [bind_of_ok (rfl : (set rest : Decoder PUnit) (ds.map Nat.digitChar ++ rest) = .ok ((), rest))]
    simp only [Bool.false_eq_true, ↓reduceIte]
    exact afterInteger_nat n h

theorem isBlank_of_isDigit {c : Char} (h : isDigit c = true) : isBlank c = false := by
  simp only [isDigit, Bool.and_eq_true, decide_eq_true_eq] at h
  obtain ⟨h0, h9⟩ := h
  have h0' : 48 ≤ c.toNat := h0
  simp only [isBlank, Bool.or_eq_false_iff, decide_eq_false_iff_not]
  refine ⟨⟨⟨?_, ?_⟩, ?_⟩, ?_⟩ <;> intro hc <;> subst hc <;> simp at h0'

theorem natText_cons (n : Nat) : ∃ c cs, (natText n).toList = c :: cs ∧ isDigit c = true := by
  obtain ⟨ds, hds, hlt, -⟩ := Net.toDigits_eq_map (by norm_num : 1 < 10) n
  rcases ds with _ | ⟨d, ds⟩
  · exact absurd hds Nat.toDigits_ne_nil
  · exact ⟨Nat.digitChar d, ds.map Nat.digitChar, by simp [natText, hds],
      isDigit_digitChar (hlt d (by simp))⟩

theorem natural_natText {n : Nat} (hn : n ≤ maxU64) {ws rest : List Char} (hws : Blanks ws)
    (h : NumberEnd rest) : natural (ws ++ ((natText n).toList ++ rest)) = .ok (n, rest) := by
  obtain ⟨c, cs, htext, hc⟩ := natText_cons n
  have hnum := number_natText hn h
  rw [htext, List.cons_append] at hnum
  rw [htext]
  have hminus : c ≠ '-' := by
    rintro rfl
    exact absurd hc (by decide)
  unfold natural
  rw [List.cons_append, bind_of_ok (peekToken_blanks hws (isBlank_of_isDigit hc) _)]
  simp only [hc, if_true]
  rw [bind_of_ok hnum]
  rfl

/-- What follows a value in pretty text: the comma before the next entry, the line break before
the closing bracket, or the end of the document. -/
def Follows (rest : List Char) : Prop := ∀ c ∈ rest.head?, c = ',' ∨ c = '\n'

/-- A reader takes a printed value after any blanks and leaves what follows it. -/
def Reads {α : Type} (d : Decoder α) (text : List Char) (a : α) : Prop :=
  ∀ ws rest, Blanks ws → Follows rest → d (ws ++ (text ++ rest)) = .ok (a, rest)

theorem Follows.numberEnd {rest : List Char} (h : Follows rest) : NumberEnd rest := by
  intro c hc
  rcases h c hc with rfl | rfl <;> decide

theorem Blanks.nil : Blanks [] := fun _ h => nomatch h

theorem Blanks.append {ws ws' : List Char} (h : Blanks ws) (h' : Blanks ws') : Blanks (ws ++ ws') := by
  intro c hc
  rcases List.mem_append.1 hc with hc | hc
  · exact h c hc
  · exact h' c hc

theorem Blanks.cons {c : Char} {ws : List Char} (hc : isBlank c = true) (h : Blanks ws) :
    Blanks (c :: ws) := by
  intro c' hc'
  rcases List.mem_cons.1 hc' with rfl | hc'
  · exact hc
  · exact h c' hc'

theorem blanks_indent (level : Nat) : Blanks (Value.indent level).toList := by
  intro c hc
  simp only [Value.indent, String.toList_ofList, List.mem_replicate] at hc
  rw [hc.2]
  rfl

theorem quoteString_toList (s : String) (rest : List Char) :
    (quoteString s).toList ++ rest = '"' :: (s.toList.flatMap escapeChar ++ '"' :: rest) := by
  simp [quoteString]

theorem string_quoted {ws : List Char} (hws : Blanks ws) (s : String) (rest : List Char) :
    string (ws ++ ((quoteString s).toList ++ rest)) = .ok (s, rest) := by
  rw [quoteString_toList]
  unfold string
  rw [bind_of_ok (peekToken_blanks hws rfl _)]
  exact stringBody_quoted s rest

theorem reads_string (s : String) : Reads string (quoteString s).toList s :=
  fun _ rest hws _ => string_quoted hws s rest

theorem reads_natural {n : Nat} (hn : n ≤ maxU64) : Reads natural (natText n).toList n :=
  fun _ _ hws hrest => natural_natText hn hws hrest.numberEnd

theorem map_of_ok {α β : Type} {x : Decoder α} (f : α → β) {cs cs' : List Char} {a : α}
    (h : x cs = .ok (a, cs')) : (f <$> x) cs = .ok (f a, cs') := by
  show (do let (a, s) ← x cs; pure (f a, s) : Except DecodeError (β × List Char)) = _
  rw [h]
  rfl

theorem Reads.map {α β : Type} {d : Decoder α} {text : List Char} {a : α} (h : Reads d text a)
    (f : α → β) : Reads (f <$> d) text (f a) :=
  fun ws rest hws hrest => map_of_ok f (h ws rest hws hrest)

theorem reads_option_none {α : Type} (d : Decoder α) : Reads (option d) "null".toList none := by
  intro ws rest hws _
  have hnull : "null".toList ++ rest = 'n' :: ('u' :: 'l' :: 'l' :: rest) := rfl
  unfold Decoder.option
  rw [hnull, bind_of_ok (peekToken_blanks hws rfl _)]
  rfl

theorem Reads.option {α : Type} {d : Decoder α} {text : List Char} {a : α} (h : Reads d text a)
    {c : Char} (hstart : text.head? = some c) (hblank : isBlank c = false) (hn : c ≠ 'n') :
    Reads (option d) text (some a) := by
  obtain ⟨cs, rfl⟩ : ∃ cs, text = c :: cs := by
    cases text with
    | nil => exact absurd hstart (by simp)
    | cons c' cs => exact ⟨cs, by simp at hstart; rw [hstart]⟩
  intro ws rest hws hrest
  unfold Decoder.option
  rw [List.cons_append, bind_of_ok (peekToken_blanks hws hblank _)]
  have hd := h [] rest Blanks.nil hrest
  simp [hn]
  exact map_of_ok some hd

theorem nextKey_first {ws : List Char} (hws : Blanks ws) (k : String) (rest : List Char) :
    nextKey true (ws ++ ((quoteString k).toList ++ rest)) = .ok (some k, rest) := by
  unfold nextKey
  rw [quoteString_toList, bind_of_ok (peekToken_blanks hws rfl _)]
  exact map_of_ok some (stringBody_quoted k rest)

theorem nextKey_next {ws : List Char} (hws : Blanks ws) (k : String) (rest : List Char) :
    nextKey false (',' :: (ws ++ ((quoteString k).toList ++ rest))) = .ok (some k, rest) := by
  unfold nextKey
  rw [bind_of_ok (peekToken_cons rfl _)]
  simp only [Bool.false_eq_true, ↓reduceIte]
  rw [bind_of_ok (advance_cons _ _), quoteString_toList,
    bind_of_ok (peekToken_blanks hws rfl _)]
  exact map_of_ok some (stringBody_quoted k rest)

theorem nextKey_close (first : Bool) {ws : List Char} (hws : Blanks ws) (rest : List Char) :
    nextKey first (ws ++ '}' :: rest) = .ok (none, '}' :: rest) := by
  unfold nextKey
  rw [bind_of_ok (peekToken_blanks hws rfl _)]
  rfl

theorem colon_apply {ws : List Char} (hws : Blanks ws) (rest : List Char) :
    colon (ws ++ ':' :: rest) = .ok ((), rest) := by
  unfold colon
  rw [bind_of_ok (peekToken_blanks hws rfl _)]
  rfl

/-- The entries of a printed object read one after another, each from the state the one
before it left. -/
def EntriesRead {σ : Type} (entry : σ → String → Decoder σ) (level : Nat) :
    σ → List (String × Value) → σ → Prop
  | s, [], s' => s = s'
  | s, (k, v) :: es, s' => ∃ s₁,
      (∀ rest, Follows rest →
        entry s k ((": " ++ Value.prettyAt level v).toList ++ rest) = .ok (s₁, rest)) ∧
      EntriesRead entry level s₁ es s'

theorem prettyEntries_single (level : Nat) (k : String) (v : Value) (after : List Char) :
    (Value.prettyEntries level [(k, v)]).toList ++ after = (Value.indent level).toList ++
      ((quoteString k).toList ++ ((": " ++ Value.prettyAt level v).toList ++ after)) := by
  simp [Value.prettyEntries]

theorem prettyEntries_cons (level : Nat) (k : String) (v : Value) (e : String × Value)
    (es : List (String × Value)) (after : List Char) :
    (Value.prettyEntries level ((k, v) :: e :: es)).toList ++ after = (Value.indent level).toList ++
      ((quoteString k).toList ++ ((": " ++ Value.prettyAt level v).toList ++
        (',' :: '\n' :: ((Value.prettyEntries level (e :: es)).toList ++ after)))) := by
  obtain ⟨k', v'⟩ := e
  simp [Value.prettyEntries]

theorem nextKey_entry (first : Bool) (level : Nat) (k : String) (rest : List Char) :
    nextKey first ((if first then ['\n'] else [',', '\n']) ++
      ((Value.indent level).toList ++ ((quoteString k).toList ++ rest))) = .ok (some k, rest) := by
  have hws : Blanks ('\n' :: (Value.indent level).toList) := Blanks.cons rfl (blanks_indent level)
  cases first
  · exact nextKey_next hws k rest
  · exact nextKey_first hws k rest

theorem entriesLoop_pretty {σ : Type} {entry : σ → String → Decoder σ} {level : Nat}
    {ws tail : List Char} (hws : Blanks ws) :
    ∀ (es : List (String × Value)) (first : Bool) (s s' : σ) (fuel : Nat), es ≠ [] →
      EntriesRead entry level s es s' → es.length < fuel →
      entriesLoop entry fuel first s ((if first then ['\n'] else [',', '\n']) ++
        ((Value.prettyEntries level es).toList ++ '\n' :: (ws ++ '}' :: tail))) =
        .ok (s', '}' :: tail)
  | [], _, _, _, _, hne, _, _ => absurd rfl hne
  | (k, v) :: es, first, s, s', fuel + 1, _, ⟨s₁, hentry, hrest⟩, hfuel => by
    -- the key, then the entry's colon and value; what is left starts the next entry or
    -- closes the object
    rw [entriesLoop]
    cases es with
    | nil =>
      obtain rfl : s₁ = s' := hrest
      obtain ⟨fuel, rfl⟩ : ∃ f, fuel = f + 1 := ⟨fuel - 1, by simp at hfuel; omega⟩
      rw [prettyEntries_single, bind_of_ok (nextKey_entry first level k _)]
      dsimp only
      rw [bind_of_ok (hentry _ (fun c hc => by simp at hc; exact .inr hc.symm))]
      have hclose : nextKey false ('\n' :: (ws ++ '}' :: tail)) = .ok (none, '}' :: tail) :=
        nextKey_close false (Blanks.cons rfl hws) tail
      rw [entriesLoop, bind_of_ok hclose]
      rfl
    | cons e es =>
      rw [prettyEntries_cons, bind_of_ok (nextKey_entry first level k _)]
      dsimp only
      rw [bind_of_ok (hentry _ (fun c hc => by simp at hc; exact .inl hc.symm))]
      exact entriesLoop_pretty hws (e :: es) false s₁ s' fuel (List.cons_ne_nil e es) hrest
        (by simpa using hfuel)

theorem get_apply (cs : List Char) : (get : Decoder (List Char)) cs = .ok (cs, cs) := rfl

theorem length_le_prettyEntries (level : Nat) :
    ∀ es : List (String × Value), es.length ≤ (Value.prettyEntries level es).toList.length
  | [] => by simp
  | [(k, v)] => by
    have h := congrArg List.length (prettyEntries_single level k v [])
    simp only [List.append_nil] at h
    rw [h, quoteString_toList]
    simp
    omega
  | (k, v) :: e :: es => by
    have h := congrArg List.length (prettyEntries_cons level k v e es [])
    have ih := length_le_prettyEntries level (e :: es)
    simp only [List.append_nil] at h
    rw [h, quoteString_toList]
    simp only [List.length_append, List.length_cons] at ih ⊢
    omega

theorem entries_pretty {σ : Type} {entry : σ → String → Decoder σ} {level : Nat}
    {ws tail : List Char} (hws : Blanks ws) {es : List (String × Value)} (hne : es ≠ [])
    {init s' : σ} (hread : EntriesRead entry level init es s') :
    entries entry init ('\n' :: ((Value.prettyEntries level es).toList ++
      '\n' :: (ws ++ '}' :: tail))) = .ok (s', '}' :: tail) := by
  unfold entries
  rw [bind_of_ok (get_apply _)]
  have hlen := length_le_prettyEntries level es
  exact entriesLoop_pretty hws es true init s' _ hne hread (by simp; omega)

theorem prettyAt_obj (level : Nat) {es : List (String × Value)} (hne : es ≠ [])
    (rest : List Char) :
    (Value.prettyAt level (.obj es)).toList ++ rest = '{' :: '\n' :: ((Value.prettyEntries
      (level + 1) es).toList ++ '\n' :: ((Value.indent level).toList ++ '}' :: rest)) := by
  cases es with
  | nil => exact absurd rfl hne
  | cons e es => simp [Value.prettyAt]

theorem endObject_close (rest : List Char) : endObject ('}' :: rest) = .ok ((), rest) := by
  unfold endObject
  rw [bind_of_ok (peekToken_cons rfl _)]
  rfl

/-- A record printed as an object reads back through its entries. -/
theorem reads_record {α σ : Type} {ofItems : Decoder α} {entry : σ → String → Decoder σ}
    {init s' : σ} {done : σ → Decoder α} {a : α} {level : Nat} {es : List (String × Value)}
    (hne : es ≠ []) (hread : EntriesRead entry (level + 1) init es s')
    (hdone : ∀ cs, done s' cs = .ok (a, cs)) :
    Reads (record ofItems (entries entry init >>= done)) (Value.prettyAt level (.obj es)).toList a := by
  intro ws rest hws _
  have hbody : (entries entry init >>= done) ('\n' :: ((Value.prettyEntries (level + 1) es).toList ++
      '\n' :: ((Value.indent level).toList ++ '}' :: rest))) = .ok (a, '}' :: rest) := by
    rw [bind_of_ok (entries_pretty (blanks_indent level) hne hread)]
    exact hdone _
  rw [prettyAt_obj level hne]
  unfold record
  rw [bind_of_ok (peekToken_blanks hws rfl _)]
  simp only
  rw [bind_of_ok (advance_cons _ _), bind_of_ok hbody, bind_of_ok (endObject_close rest)]
  rfl

theorem nextItem_string (first : Bool) (level : Nat) (more : List Char) :
    nextItem first ((if first then ['\n'] else [',', '\n']) ++
      ((Value.indent level).toList ++ '"' :: more)) = .ok (true, '"' :: more) := by
  have hws : Blanks ('\n' :: (Value.indent level).toList) := Blanks.cons rfl (blanks_indent level)
  unfold nextItem
  cases first
  · show (peekToken >>= _) (',' :: '\n' :: ((Value.indent level).toList ++ '"' :: more)) = _
    rw [bind_of_ok (peekToken_cons rfl _)]
    simp only [Bool.false_eq_true, ↓reduceIte]
    have hpeek : peekToken ('\n' :: ((Value.indent level).toList ++ '"' :: more)) =
        .ok (some '"', '"' :: more) := peekToken_blanks hws rfl more
    rw [bind_of_ok (advance_cons _ _), bind_of_ok hpeek]
    rfl
  · have hpeek : peekToken ('\n' :: ((Value.indent level).toList ++ '"' :: more)) =
        .ok (some '"', '"' :: more) := peekToken_blanks hws rfl more
    show (peekToken >>= _) ('\n' :: ((Value.indent level).toList ++ '"' :: more)) = _
    rw [bind_of_ok hpeek]
    rfl

theorem nextItem_close (first : Bool) {ws : List Char} (hws : Blanks ws) (rest : List Char) :
    nextItem first (ws ++ ']' :: rest) = .ok (false, ']' :: rest) := by
  unfold nextItem
  rw [bind_of_ok (peekToken_blanks hws rfl _)]
  rfl

theorem prettyItems_single (level : Nat) (v : Value) (after : List Char) :
    (Value.prettyItems level [v]).toList ++ after =
      (Value.indent level).toList ++ ((Value.prettyAt level v).toList ++ after) := by
  simp [Value.prettyItems]

theorem prettyItems_cons (level : Nat) (v v' : Value) (vs : List Value) (after : List Char) :
    (Value.prettyItems level (v :: v' :: vs)).toList ++ after =
      (Value.indent level).toList ++ ((Value.prettyAt level v).toList ++
        (',' :: '\n' :: ((Value.prettyItems level (v' :: vs)).toList ++ after))) := by
  simp [Value.prettyItems]

theorem itemsLoop_strings {level : Nat} {ws tail : List Char} (hws : Blanks ws) :
    ∀ (xs : List String) (first : Bool) (acc : List String) (fuel : Nat), xs ≠ [] →
      xs.length < fuel →
      itemsLoop string fuel first acc ((if first then ['\n'] else [',', '\n']) ++
        ((Value.prettyItems level (xs.map .str)).toList ++ '\n' :: (ws ++ ']' :: tail))) =
        .ok (acc.reverse ++ xs, ']' :: tail)
  | [], _, _, _, hne, _ => absurd rfl hne
  | x :: xs, first, acc, fuel + 1, _, hfuel => by
    rw [itemsLoop]
    cases xs with
    | nil =>
      obtain ⟨fuel, rfl⟩ : ∃ f, fuel = f + 1 := ⟨fuel - 1, by simp at hfuel; omega⟩
      have hstring : string ((quoteString x).toList ++ '\n' :: (ws ++ ']' :: tail)) =
          .ok (x, '\n' :: (ws ++ ']' :: tail)) :=
        string_quoted Blanks.nil x ('\n' :: (ws ++ ']' :: tail))
      have hclose : nextItem false ('\n' :: (ws ++ ']' :: tail)) = .ok (false, ']' :: tail) :=
        nextItem_close false (Blanks.cons rfl hws) tail
      rw [List.map_cons, List.map_nil, prettyItems_single]
      simp only [Value.prettyAt]
      rw [quoteString_toList, bind_of_ok (nextItem_string first level _)]
      simp only [↓reduceIte]
      rw [← quoteString_toList, bind_of_ok hstring, itemsLoop, bind_of_ok hclose]
      simp
      rfl
    | cons x' xs =>
      have hstring := string_quoted Blanks.nil x (',' :: '\n' ::
          ((Value.prettyItems level ((x' :: xs).map .str)).toList ++ '\n' :: (ws ++ ']' :: tail)))
      rw [List.nil_append] at hstring
      rw [List.map_cons, List.map_cons, prettyItems_cons]
      simp only [Value.prettyAt]
      rw [quoteString_toList, bind_of_ok (nextItem_string first level _)]
      simp only [↓reduceIte]
      rw [← quoteString_toList, ← List.map_cons, bind_of_ok hstring]
      have hrec : itemsLoop string fuel false (x :: acc) (',' :: '\n' ::
          ((Value.prettyItems level ((x' :: xs).map .str)).toList ++ '\n' :: (ws ++ ']' :: tail))) =
          .ok ((x :: acc).reverse ++ x' :: xs, ']' :: tail) :=
        itemsLoop_strings hws (x' :: xs) false (x :: acc) fuel (List.cons_ne_nil x' xs)
          (by simpa using hfuel)
      rw [hrec]
      simp

theorem length_le_prettyItems (level : Nat) :
    ∀ xs : List String, xs.length ≤ (Value.prettyItems level (xs.map .str)).toList.length
  | [] => by simp
  | [x] => by
    have h := congrArg List.length (prettyItems_single level (.str x) [])
    simp only [List.append_nil] at h
    rw [List.map_cons, List.map_nil, h]
    simp [Value.prettyAt, quoteString]
    omega
  | x :: x' :: xs => by
    have h := congrArg List.length (prettyItems_cons level (.str x) (.str x') (xs.map .str) [])
    have ih := length_le_prettyItems level (x' :: xs)
    simp only [List.append_nil, List.map_cons] at h ih
    rw [List.map_cons, List.map_cons, h]
    simp only [List.length_append, List.length_cons] at ih ⊢
    omega

theorem endArray_close (rest : List Char) : endArray (']' :: rest) = .ok ((), rest) := by
  unfold endArray
  rw [bind_of_ok (peekToken_cons rfl _)]
  rfl

theorem reads_strings (level : Nat) (xs : List String) :
    Reads (array string) (Value.prettyAt level (Value.ofStrings xs)).toList xs := by
  intro ws rest hws _
  unfold array
  cases xs with
  | nil =>
    have hempty : (Value.prettyAt level (Value.ofStrings [])).toList ++ rest = '[' :: ']' :: rest := by
      simp [Value.ofStrings, Value.prettyAt]
    have hitems : items string (']' :: rest) = .ok ([], ']' :: rest) := by
      have hclose : nextItem true (']' :: rest) = .ok (false, ']' :: rest) :=
        nextItem_close true Blanks.nil rest
      unfold items
      rw [bind_of_ok (get_apply _), itemsLoop, bind_of_ok hclose]
      rfl
    rw [hempty, bind_of_ok (peekToken_blanks hws rfl _)]
    simp only
    rw [bind_of_ok (advance_cons _ _), bind_of_ok hitems, bind_of_ok (endArray_close rest)]
    rfl
  | cons x xs =>
    have htext : (Value.prettyAt level (Value.ofStrings (x :: xs))).toList ++ rest =
        '[' :: '\n' :: ((Value.prettyItems (level + 1) ((x :: xs).map .str)).toList ++
          '\n' :: ((Value.indent level).toList ++ ']' :: rest)) := by
      simp [Value.ofStrings, Value.prettyAt]
    have hitems : items string ('\n' :: ((Value.prettyItems (level + 1) ((x :: xs).map .str)).toList ++
        '\n' :: ((Value.indent level).toList ++ ']' :: rest))) = .ok (x :: xs, ']' :: rest) := by
      unfold items
      have hlen := length_le_prettyItems (level + 1) (x :: xs)
      rw [bind_of_ok (get_apply _)]
      exact itemsLoop_strings (blanks_indent level) (x :: xs) true [] _ (List.cons_ne_nil x xs)
        (by simp at hlen ⊢; omega)
    rw [htext, bind_of_ok (peekToken_blanks hws rfl _)]
    simp only
    rw [bind_of_ok (advance_cons _ _), bind_of_ok hitems, bind_of_ok (endArray_close rest)]
    rfl

theorem reads_bool (level : Nat) (b : Bool) : Reads bool (Value.prettyAt level (.bool b)).toList b := by
  intro ws rest hws _
  unfold bool
  cases b
  · have htext : (Value.prettyAt level (.bool false)).toList ++ rest =
        'f' :: 'a' :: 'l' :: 's' :: 'e' :: rest := by simp [Value.prettyAt]
    rw [htext, bind_of_ok (peekToken_blanks hws rfl _)]
    rfl
  · have htext : (Value.prettyAt level (.bool true)).toList ++ rest =
        't' :: 'r' :: 'u' :: 'e' :: rest := by simp [Value.prettyAt]
    rw [htext, bind_of_ok (peekToken_blanks hws rfl _)]
    rfl

theorem reads_str (level : Nat) (s : String) :
    Reads string (Value.prettyAt level (.str s)).toList s :=
  reads_string s

theorem reads_ofOption (level : Nat) (s : Option String) :
    Reads (option string) (Value.prettyAt level (Value.ofOption s)).toList s := by
  cases s with
  | none => exact reads_option_none string
  | some s =>
    have hstart : (Value.prettyAt level (Value.ofOption (some s))).toList.head? = some '"' := by
      simp [Value.ofOption, Value.prettyAt, quoteString]
    exact (reads_string s).option hstart rfl (by decide)

theorem reads_ofNat (level : Nat) {n : Nat} (hn : n ≤ maxU64) :
    Reads natural (Value.prettyAt level (Value.ofNat n)).toList n :=
  reads_natural hn

theorem colon_entry (t : String) (rest : List Char) :
    colon ((": " ++ t).toList ++ rest) = .ok ((), [' '] ++ (t.toList ++ rest)) := by
  have htext : (": " ++ t).toList ++ rest = [] ++ ':' :: ([' '] ++ (t.toList ++ rest)) := by simp
  rw [htext]
  exact colon_apply Blanks.nil _

theorem Reads.after_space {α : Type} {d : Decoder α} {text : List Char} {a : α} (h : Reads d text a)
    {rest : List Char} (hrest : Follows rest) : d ([' '] ++ (text ++ rest)) = .ok (a, rest) :=
  h [' '] rest (Blanks.cons rfl Blanks.nil) hrest

end Decoder

end CephMount.Json
