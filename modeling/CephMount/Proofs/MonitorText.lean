import CephMount.Monitor
import CephMount.Proofs.AddressText

/-!
Monitor texts are fixed points of parse-then-print.
-/

namespace CephMount.Text

theorem splitFirst_append {x : Char} {sep a b : List Char} (ha : x ∉ a) :
    splitFirst (x :: sep) (a ++ x :: (sep ++ b)) = some (a, b) := by
  induction a with
  | nil => simp [splitFirst, List.isPrefixOf_iff_prefix]
  | cons c a ih =>
    have hc : c ≠ x := fun h => ha (h ▸ List.mem_cons_self)
    have hx : x ∉ a := fun h => ha (List.mem_cons_of_mem c h)
    simp [splitFirst, List.isPrefixOf, Ne.symm hc, ih hx]

theorem splitLast_append {x : Char} {a b : List Char} (hb : x ∉ b) :
    splitLast x (a ++ x :: b) = some (a, b) := by
  have hrev : (a ++ x :: b).reverse = b.reverse ++ x :: ([] ++ a.reverse) := by simp
  simp only [splitLast, hrev, splitFirst_append (List.mem_reverse.not.2 hb), List.reverse_reverse]

end CephMount.Text

namespace CephMount.Net

theorem decimalValue_map_digitChar {ds : List Nat} (hds : ∀ d ∈ ds, d < 10) :
    decimalValue (ds.map Nat.digitChar) = digitsValue 10 ds := by
  unfold decimalValue digitsValue
  rw [List.foldl_map]
  refine List.foldl_ext _ _ 0 fun acc d hd => ?_
  show acc * 10 + ((Nat.digitChar d).toNat - 48) = acc * 10 + d
  rw [Nat.toNat_digitChar_sub_48_of_lt_ten (hds d hd)]

theorem isDecimalDigit_digitChar {d : Nat} (hd : d < 10) : isDecimalDigit (Nat.digitChar d) := by
  interval_cases d <;> rfl

theorem parsePort?_toString {n : Nat} (hn : n < 65536) : parsePort? (toString n) = some n := by
  obtain ⟨ds, hds, hlt, hval, -⟩ := toDigits_eq_map (by norm_num : 1 < 10) n
  have htext : (toString n).toList = ds.map Nat.digitChar := by
    rw [show toString n = n.repr from rfl, Nat.toList_repr, hds]
  have hne : ds ≠ [] := by
    rintro rfl
    exact Nat.toDigits_ne_nil (hds.trans List.map_nil)
  have hdigits : ∀ c ∈ ds.map Nat.digitChar, isDecimalDigit c := by
    intro c hc
    obtain ⟨d, hd, rfl⟩ := List.mem_map.1 hc
    exact isDecimalDigit_digitChar (hlt d hd)
  unfold parsePort?
  rw [htext]
  split
  · next rest hplus =>
    have hfirst : isDecimalDigit '+' := hdigits '+' (by rw [hplus]; simp)
    exact absurd hfirst (by decide)
  · have hall : (ds.map Nat.digitChar).all isDecimalDigit = true := List.all_eq_true.2 hdigits
    have hempty : (ds.map Nat.digitChar).isEmpty = false := by simpa using hne
    dsimp only
    rw [if_neg (by simp [hall, hempty]), decimalValue_map_digitChar hlt, hval, if_pos hn]

theorem parsePort?_lt {s : String} {n : Nat} (h : parsePort? s = some n) : n < 65536 := by
  unfold parsePort? at h
  dsimp only at h
  split_ifs at h with hbad hlt
  simp only [Option.some.injEq] at h
  omega

end CephMount.Net

namespace CephMount.Monitor

open Net

theorem hostAndPort?_host {s host portText : String}
    (h : hostAndPort? s = some (host, portText)) :
    (∃ a : Ipv6Addr, a.WellFormed ∧ host = a.render) ∨ ∃ a : Ipv4Addr, host = a.render := by
  unfold hostAndPort? at h
  split at h
  · split at h
    · obtain ⟨a, ha, hpair⟩ := Option.map_eq_some_iff.1 h
      simp only [Prod.mk.injEq] at hpair
      exact .inl ⟨a, Ipv6Addr.parse?_wellFormed ha, hpair.1.symm⟩
    · cases h
  · split at h
    · obtain ⟨a, -, hpair⟩ := Option.map_eq_some_iff.1 h
      simp only [Prod.mk.injEq] at hpair
      exact .inr ⟨a, hpair.1.symm⟩
    · cases h

theorem parse_eq_ok {s : String} {m : Monitor} (h : parse s = .ok m) :
    0 < m.port ∧ m.port < 65536 ∧
      ((∃ a : Ipv6Addr, a.WellFormed ∧ m.host = a.render) ∨ ∃ a : Ipv4Addr, m.host = a.render) := by
  unfold parse at h
  split at h
  · next host portText hhp =>
    split at h
    · next port hport =>
      split_ifs at h with h0
      cases h
      exact ⟨Nat.pos_of_ne_zero h0, parsePort?_lt hport, hostAndPort?_host hhp⟩
    · cases h
  · cases h

theorem hostAndPort?_ipv6 {a : Ipv6Addr} (ha : a.WellFormed) (port : Nat) :
    hostAndPort? ("[" ++ a.render ++ "]:" ++ toString port) = some (a.render, toString port) := by
  have hbracket : ']' ∉ a.render.toList := by
    intro h
    rcases Ipv6Addr.mem_render ha h with h | h | h
    · exact absurd h (by decide)
    · exact absurd h (by decide)
    · exact absurd h (by decide)
  have hsplit : Text.splitFirst [']', ':'] (a.render.toList ++ ']' :: ':' :: (toString port).toList) =
      some (a.render.toList, (toString port).toList) := Text.splitFirst_append hbracket
  have htext : ("[" ++ a.render ++ "]:" ++ toString port).toList =
      '[' :: (a.render.toList ++ ']' :: ':' :: (toString port).toList) := by simp
  unfold hostAndPort?
  rw [htext]
  simp only [hsplit, String.ofList_toList, Ipv6Addr.parse?_render ha, Option.map_some]

theorem hostAndPort?_ipv4 (a : Ipv4Addr) (port : Nat) :
    hostAndPort? (a.render ++ ":" ++ toString port) = some (a.render, toString port) := by
  obtain ⟨c, cs, hcs, hc⟩ := a.render_head
  have hport : ':' ∉ (toString port).toList := by
    intro h
    rw [show toString port = port.repr from rfl, Nat.toList_repr] at h
    exact absurd (digitValue_of_mem_toDigits (.inl rfl) h) (by decide)
  have htext : (a.render ++ ":" ++ toString port).toList =
      a.render.toList ++ ':' :: (toString port).toList := by simp
  unfold hostAndPort?
  rw [htext]
  split
  · next rest hbracket =>
    rw [hcs, List.cons_append, List.cons.injEq] at hbracket
    exact absurd (hbracket.1 ▸ hc) (by decide)
  · rw [Text.splitLast_append hport]
    simp only [String.ofList_toList, Ipv4Addr.parse?_render, Option.map_some]

theorem parse_render_ipv6 {a : Ipv6Addr} (ha : a.WellFormed) {port : Nat} (h0 : 0 < port)
    (hport : port < 65536) : parse (render ⟨a.render, port⟩) = .ok ⟨a.render, port⟩ := by
  have hcolon : a.render.toList.contains ':' = true := by
    simp [Ipv6Addr.colon_mem_render ha]
  simp only [render, hcolon, if_true]
  unfold parse
  rw [hostAndPort?_ipv6 ha]
  simp only [parsePort?_toString hport, if_neg (Nat.pos_iff_ne_zero.1 h0)]

theorem parse_render_ipv4 (a : Ipv4Addr) {port : Nat} (h0 : 0 < port) (hport : port < 65536) :
    parse (render ⟨a.render, port⟩) = .ok ⟨a.render, port⟩ := by
  have hcolon : a.render.toList.contains ':' = false := by
    rw [Bool.eq_false_iff]
    intro h
    rcases Ipv4Addr.mem_render (List.contains_iff_mem.1 h) with h | h
    · exact absurd h (by decide)
    · exact absurd h (by decide)
  simp only [render, hcolon, Bool.false_eq_true, ↓reduceIte]
  unfold parse
  rw [hostAndPort?_ipv4]
  simp only [parsePort?_toString hport, if_neg (Nat.pos_iff_ne_zero.1 h0)]

/-- Printing a parsed monitor gives a text that parses to the same monitor; this rests on the
address texts, each of which reads back to the address it was printed from. -/
theorem parse_render_of_parse :
    (∀ s m, parse s = .ok m → parse m.render = .ok m) ∧
      (∀ x : Ipv4Addr, Ipv4Addr.parse? x.render = some x) ∧
      ∀ x : Ipv6Addr, x.WellFormed → Ipv6Addr.parse? x.render = some x := by
  refine ⟨fun s m h => ?_, Ipv4Addr.parse?_render, fun x hx => Ipv6Addr.parse?_render hx⟩
  obtain ⟨host, port⟩ := m
  -- the host is the printed form of the address read, so it is printed and read the same way
  obtain ⟨h0, hport, ⟨a, ha, rfl⟩ | ⟨a, rfl⟩⟩ := parse_eq_ok h
  · exact parse_render_ipv6 ha h0 hport
  · exact parse_render_ipv4 a h0 hport

theorem parse_render_bracketed :
    parse "[2001:0db8:0:0:0:0:0:1]:+06789" = .ok ⟨"2001:db8::1", 6789⟩ ∧
      parse (render ⟨"2001:db8::1", 6789⟩) = .ok ⟨"2001:db8::1", 6789⟩ :=
  have h : parse "[2001:0db8:0:0:0:0:0:1]:+06789" = .ok ⟨"2001:db8::1", 6789⟩ := by decide
  ⟨h, parse_render_of_parse.1 _ _ h⟩

end CephMount.Monitor
