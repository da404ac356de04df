import LinkKeeper.Proofs.Net.RoundTrip

/-!
Which texts are addresses with ports.

The readers take as much as they can at each step and never go back, save from four octets to a group. That they
still read all of what is written as it should be rests on what can follow each piece.

* `Net.Written`: the grammar, without a word about how it is read.
* `Net.Read.quad_eq_some_iff`, `Net.Read.run_sound`, `Net.Read.run_complete`: octets and groups.
* `Net.Endpoint.parse?_eq_some_iff`: the texts that are read are those of the grammar.
-/

namespace LinkKeeper.Net

open Text

/-! ### The grammar -/

namespace Written

/-- An octet: up to three digits, without a zero in front. -/
structure Octet (ds : List Char) (n : Nat) : Prop where
  spells : Spells 10 ds n
  small : n < 256
  short : ds.length ≤ 3
  plain : ds.head? = some '0' → ds.length ≤ 1

/-- Four octets with points between them. -/
inductive Quad : List Char → List Nat → Prop where
  | intro {as bs cs ds : List Char} {a b c d : Nat} (first : Octet as a) (second : Octet bs b) (third : Octet cs c)
      (fourth : Octet ds d) : Quad (as ++ '.' :: (bs ++ '.' :: (cs ++ '.' :: ds))) [a, b, c, d]

/-- A group: up to four digits. -/
structure Group (ds : List Char) (n : Nat) : Prop where
  spells : Spells 16 ds n
  short : ds.length ≤ 4

/-- Groups with colons between them, and whether the last two are written as four octets. -/
inductive Groups : (quad : Bool) → List Char → List Nat → Prop where
  | group {ds : List Char} {n : Nat} (group : Group ds n) : Groups false ds [n]
  | quad {cs : List Char} {a b c d : Nat} (quad : Quad cs [a, b, c, d]) : Groups true cs [a * 256 + b, c * 256 + d]
  | cons {quad : Bool} {ds cs : List Char} {n : Nat} {ns : List Nat} (first : Group ds n) (later : Groups quad cs ns) :
      Groups quad (ds ++ ':' :: cs) (n :: ns)

/-- Groups on one side of a double colon. -/
inductive Side : (quad : Bool) → List Char → List Nat → Prop where
  | empty : Side false [] []
  | groups {quad : Bool} {cs : List Char} {ns : List Nat} (groups : Groups quad cs ns) : Side quad cs ns

/-- An address of the newer family: eight groups, or fewer with a double colon for the missing ones. -/
inductive Newer : List Char → BitVec 128 → Prop where
  | whole {quad : Bool} {cs : List Char} {ns : List Nat} (groups : Groups quad cs ns) (count : ns.length = 8) :
      Newer cs (Address.ofPieces 16 128 ns)
  | gap {quad : Bool} {cs ds : List Char} {ns ms : List Nat} (front : Side false cs ns) (back : Side quad ds ms)
      (few : ns.length + ms.length < 8) :
      Newer (cs ++ ':' :: ':' :: ds)
        (Address.ofPieces 16 128 (ns ++ List.replicate (8 - ns.length - ms.length) 0 ++ ms))

/-- A port: a number of sixteen bits. -/
structure Port (ds : List Char) (n : Nat) : Prop where
  spells : Spells 10 ds n
  small : n < 65536

/-- A zone: nothing, or a percent sign and a number of thirty-two bits. -/
inductive Zone : List Char → Nat → Prop where
  | none : Zone [] 0
  | number {ds : List Char} {n : Nat} (spells : Spells 10 ds n) (small : n < 0x100000000) : Zone ('%' :: ds) n

/-- An address with a port; one of the newer family stands between brackets. -/
inductive Endpoint : List Char → Net.Endpoint → Prop where
  | older {cs ds : List Char} {os : List Nat} {p : Nat} (quad : Quad cs os) (port : Port ds p) :
      Endpoint (cs ++ ':' :: ds) ⟨.v4 (Address.ofPieces 8 32 os), 0, p⟩
  | newer {cs zs ds : List Char} {bits : BitVec 128} {z p : Nat} (address : Newer cs bits) (zone : Zone zs z)
      (port : Port ds p) : Endpoint ('[' :: (cs ++ (zs ++ ']' :: ':' :: ds))) ⟨.v6 bits, z, p⟩

end Written

/-! ### Octets -/

namespace Read

variable {cs ds rest : List Char}

theorem endsDigits_nil {base : Nat} : EndsDigits base [] := nofun

/-- A text stops where its first character belongs to no group. -/
theorem stops_of_head {c : Char} (apart : isDigit 10 c = false ∧ isDigit 16 c = false ∧ c ≠ '.') (colon : c ≠ ':') :
    Stops (c :: cs) := by
  refine ⟨?_, ?_⟩
  · rintro _ ⟨⟩
    exact apart
  · rintro _ ⟨⟩
    exact absurd rfl colon

theorem stops_bracket (cs : List Char) : Stops (']' :: cs) := stops_of_head (by decide) (by decide)

theorem stops_percent (cs : List Char) : Stops ('%' :: cs) := stops_of_head (by decide) (by decide)

theorem octet_eq_some_iff {n : Nat} :
    octet .strict cs = some (n, rest) ↔ ∃ ds, cs = ds ++ rest ∧ Written.Octet ds n ∧ EndsDigits 10 rest := by
  unfold octet
  constructor
  · intro read
    obtain ⟨⟨m, later⟩, digits, kept⟩ := Option.bind_eq_some_iff.mp read
    obtain ⟨small, same⟩ := Option.ite_none_right_eq_some.mp kept
    cases same
    obtain ⟨ds, cut, spells, ends, short, plain⟩ := number_eq_some_iff.mp digits
    exact ⟨ds, cut, ⟨spells, small, short 3 rfl, plain rfl⟩, ends⟩
  · rintro ⟨ds, cut, octet, ends⟩
    have digits : number 10 (some 3) Grammar.strict.leadingZeros cs = some (n, rest) := by
      refine number_eq_some_iff.mpr ⟨ds, cut, octet.spells, ends, ?_, fun _ => octet.plain⟩
      rintro _ ⟨⟩
      exact octet.short
    rw [digits]
    exact if_pos octet.small

theorem quad_eq_some_iff {os : List Nat} :
    quad .strict cs = some (os, rest) ↔ ∃ ds, cs = ds ++ rest ∧ Written.Quad ds os ∧ EndsDigits 10 rest := by
  unfold quad
  constructor
  · intro read
    obtain ⟨⟨a, _⟩, first, read⟩ := Option.bind_eq_some_iff.mp read
    obtain ⟨_, pointA, read⟩ := Option.bind_eq_some_iff.mp read
    obtain ⟨⟨b, _⟩, second, read⟩ := Option.bind_eq_some_iff.mp read
    obtain ⟨_, pointB, read⟩ := Option.bind_eq_some_iff.mp read
    obtain ⟨⟨c, _⟩, third, read⟩ := Option.bind_eq_some_iff.mp read
    obtain ⟨_, pointC, read⟩ := Option.bind_eq_some_iff.mp read
    obtain ⟨⟨d, _⟩, fourth, same⟩ := Option.bind_eq_some_iff.mp read
    obtain ⟨as, rfl, octetA, -⟩ := octet_eq_some_iff.mp first
    obtain rfl := char_eq_some_iff.mp pointA
    obtain ⟨bs, rfl, octetB, -⟩ := octet_eq_some_iff.mp second
    obtain rfl := char_eq_some_iff.mp pointB
    obtain ⟨cs, rfl, octetC, -⟩ := octet_eq_some_iff.mp third
    obtain rfl := char_eq_some_iff.mp pointC
    obtain ⟨ds, rfl, octetD, ends⟩ := octet_eq_some_iff.mp fourth
    cases same
    exact ⟨_, by simp, .intro octetA octetB octetC octetD, ends⟩
  · rintro ⟨_, rfl, ⟨first, second, third, fourth⟩, ends⟩
    have next {ds : List Char} {n : Nat} (written : Written.Octet ds n) (later : List Char) :
        octet .strict (ds ++ '.' :: later) = some (n, '.' :: later) :=
      octet_eq_some_iff.mpr ⟨ds, rfl, written, endsDigits_point later⟩
    have last := octet_eq_some_iff.mpr ⟨_, rfl, fourth, ends⟩
    simp only [List.append_assoc, List.cons_append, Option.bind_eq_bind, Option.bind_some, next first, next second,
      next third, last, char, if_true]

/-! ### Groups -/

/-- A run is made of groups, and leaves what does not go on with one. -/
theorem run_sound (room : Nat) (first : Bool) (cs : List Char) :
    (run .strict room first cs).groups.length ≤ room ∧
      (run .strict room first cs = ⟨[], false, cs⟩ ∨
        ∃ ds, (if first then some cs else char ':' cs) = some (ds ++ (run .strict room first cs).rest) ∧
          Written.Groups (run .strict room first cs).endsInQuad ds (run .strict room first cs).groups) := by
  induction room generalizing first cs with
  | zero => exact ⟨Nat.le_refl 0, .inl rfl⟩
  | succ room ih =>
      rw [run]
      cases next : if first then some cs else char ':' cs with
      | none => exact ⟨Nat.zero_le _, .inl rfl⟩
      | some body =>
          dsimp only
          cases octets : if room = 0 then none else quad .strict body with
          | some result =>
              obtain ⟨os, rest⟩ := result
              obtain ⟨space, octets⟩ := Option.ite_none_left_eq_some.mp octets
              obtain ⟨ds, rfl, written, -⟩ := quad_eq_some_iff.mp octets
              cases written with
              | intro a b c d =>
                  refine ⟨?_, .inr ⟨_, rfl, .quad (.intro a b c d)⟩⟩
                  simp only [List.length_cons, List.length_nil]
                  omega
          | none =>
              dsimp only
              cases digits : number 16 (some 4) true body with
              | none => exact ⟨Nat.zero_le _, .inl rfl⟩
              | some result =>
                  obtain ⟨n, rest⟩ := result
                  obtain ⟨ds, rfl, spells, -, short, -⟩ := number_eq_some_iff.mp digits
                  have group : Written.Group ds n := ⟨spells, short 4 rfl⟩
                  obtain ⟨fits, onward⟩ := ih false rest
                  refine ⟨Nat.succ_le_succ fits, .inr ?_⟩
                  dsimp only
                  rcases onward with ended | ⟨later, colon, groups⟩
                  · rw [ended]
                    exact ⟨ds, rfl, .group group⟩
                  · rw [if_neg Bool.false_ne_true] at colon
                    refine ⟨ds ++ ':' :: later, ?_, .cons group groups⟩
                    rw [List.append_assoc, List.cons_append, ← char_eq_some_iff.mp colon]

/-- Groups are read to their end, where no other one can follow. -/
theorem run_complete {quad : Bool} {ns : List Nat} (groups : Written.Groups quad ds ns) {room : Nat}
    (fits : ns.length ≤ room) (stops : Stops rest) {first : Bool}
    (next : (if first then some cs else char ':' cs) = some (ds ++ rest)) :
    run .strict room first cs = ⟨ns, quad, rest⟩ := by
  induction groups generalizing room first cs with
  | @group ds n group =>
      obtain ⟨room, rfl⟩ : ∃ less, room = less + 1 := Nat.exists_eq_add_of_le' fits
      have ended : run .strict room false rest = ⟨[], false, rest⟩ := by
        refine run_end ?_
        intro body colon
        rw [if_neg Bool.false_ne_true] at colon
        exact stops.onward body (char_eq_some_iff.mp colon)
      rw [run_group group.spells group.short stops.here next, ended]
  | @quad qs a b c d written =>
      obtain ⟨room, rfl⟩ : ∃ less, room = less + 2 := Nat.exists_eq_add_of_le' fits
      have octets := quad_eq_some_iff.mpr ⟨qs, rfl, written, stops.here.ten⟩
      rw [run, next]
      simp [octets]
  | @cons quad ds later n ns group _ ih =>
      obtain ⟨room, rfl⟩ : ∃ less, room = less + 1 := Nat.exists_eq_add_of_le' (Nat.le_trans (Nat.le_add_left 1 _) fits)
      have onward : run .strict room false (':' :: (later ++ rest)) = ⟨ns, quad, rest⟩ :=
        ih (Nat.le_of_succ_le_succ fits) (by simp [char])
      rw [List.append_assoc, List.cons_append] at next
      rw [run_group group.spells group.short (halts_colon _) next, onward]

/-- So are the groups of a side, be they none. -/
theorem run_side {quad : Bool} {ns : List Nat} (side : Written.Side quad ds ns) {room : Nat}
    (fits : ns.length ≤ room) (stops : Stops rest) : run .strict room true (ds ++ rest) = ⟨ns, quad, rest⟩ := by
  cases side with
  | empty =>
      refine run_end ?_
      intro body next
      obtain rfl := Option.some.inj next
      exact stops.here
  | groups groups => exact run_complete groups fits stops rfl

/-- A run from the front is a side. -/
theorem run_eq_side (room : Nat) (cs : List Char) :
    ∃ ds, cs = ds ++ (run .strict room true cs).rest ∧
      Written.Side (run .strict room true cs).endsInQuad ds (run .strict room true cs).groups := by
  rcases (run_sound room true cs).2 with ended | ⟨ds, next, groups⟩
  · rw [ended]
    exact ⟨[], rfl, .empty⟩
  · exact ⟨ds, Option.some.inj next, .groups groups⟩

/-! ### Addresses of the newer family -/

theorem v6_sound {a : Address} (read : v6 .strict cs = some (a, rest)) :
    ∃ ds bits, cs = ds ++ rest ∧ Written.Newer ds bits ∧ a = .v6 bits := by
  have fits := (run_sound 8 true cs).1
  obtain ⟨front, cut, side⟩ := run_eq_side 8 cs
  unfold v6 at read
  dsimp only at read
  generalize run .strict 8 true cs = head at read fits cut side
  obtain ⟨ns, quad, later⟩ := head
  dsimp only at read fits cut side
  by_cases count : ns.length = 8
  · rw [if_pos count] at read
    cases read
    cases side with
    | empty => cases count
    | groups groups => exact ⟨front, _, cut, .whole groups count, rfl⟩
  · rw [if_neg count] at read
    cases quad with
    | true => cases read
    | false =>
        rw [if_neg Bool.false_ne_true] at read
        split at read
        · rename_i behind
          have gap : 8 - ns.length - (if Grammar.strict.emptyGap then 0 else 1) = 8 - ns.length - 1 := rfl
          rw [gap] at read
          have room := (run_sound (8 - ns.length - 1) true behind).1
          obtain ⟨back, cutToo, sideToo⟩ := run_eq_side (8 - ns.length - 1) behind
          obtain ⟨rfl, rfl⟩ := Prod.mk.inj (Option.some.inj read)
          refine ⟨front ++ ':' :: ':' :: back, _, ?_, .gap side sideToo (by omega), rfl⟩
          rw [cut, List.append_assoc, List.cons_append, List.cons_append, ← cutToo]
        · cases read

theorem v6_complete {bits : BitVec 128} (newer : Written.Newer ds bits) (stops : Stops rest) :
    v6 .strict (ds ++ rest) = some (.v6 bits, rest) := by
  cases newer with
  | @whole quad ds ns groups count =>
      have head : run .strict 8 true (ds ++ rest) = ⟨ns, quad, rest⟩ :=
        run_complete groups (Nat.le_of_eq count) stops rfl
      unfold v6
      simp only [head, if_pos count]
  | @gap quad cs ds ns ms front back few =>
      have space : ms.length ≤ 8 - ns.length - (if Grammar.strict.emptyGap then 0 else 1) := by
        show ms.length ≤ 8 - ns.length - 1
        omega
      have tail := run_side back space stops
      have head : run .strict 8 true (cs ++ ':' :: ':' :: (ds ++ rest)) = ⟨ns, false, ':' :: ':' :: (ds ++ rest)⟩ :=
        run_side front (by omega) (stops_colons (ds ++ rest))
      rw [List.append_assoc, List.cons_append, List.cons_append]
      exact v6_around (by omega) head tail

/-! ### Ports and zones -/

/-- A number of any length is read from all the digits that are next. -/
theorem decimal_eq_some_iff {n : Nat} :
    number 10 none true cs = some (n, rest) ↔ ∃ ds, cs = ds ++ rest ∧ Spells 10 ds n ∧ EndsDigits 10 rest := by
  simp [number_eq_some_iff]

theorem port_eq_some_iff {n : Nat} :
    port cs = some (n, rest) ↔ ∃ ds, cs = ':' :: (ds ++ rest) ∧ Written.Port ds n ∧ EndsDigits 10 rest := by
  unfold port
  constructor
  · intro read
    obtain ⟨_, colon, read⟩ := Option.bind_eq_some_iff.mp read
    obtain ⟨⟨m, later⟩, digits, kept⟩ := Option.bind_eq_some_iff.mp read
    obtain ⟨small, same⟩ := Option.ite_none_right_eq_some.mp kept
    cases same
    obtain ⟨ds, rfl, spells, ends⟩ := decimal_eq_some_iff.mp digits
    exact ⟨ds, char_eq_some_iff.mp colon, ⟨spells, small⟩, ends⟩
  · rintro ⟨ds, rfl, written, ends⟩
    have digits := decimal_eq_some_iff.mpr ⟨ds, rfl, written.spells, ends⟩
    simp only [char, if_true, Option.bind_eq_bind, Option.bind_some, digits, if_pos written.small]

theorem zone_sound {z : Nat} (read : zone cs = (z, rest)) : ∃ zs, cs = zs ++ rest ∧ Written.Zone zs z := by
  unfold zone at read
  split at read
  · rename_i n later numbered
    obtain ⟨_, percent, digits⟩ := Option.bind_eq_some_iff.mp numbered
    obtain ⟨ds, rfl, spells, -⟩ := decimal_eq_some_iff.mp digits
    split at read
    · rename_i small
      cases read
      exact ⟨'%' :: ds, char_eq_some_iff.mp percent, .number spells small⟩
    · cases read
      exact ⟨[], rfl, .none⟩
  · cases read
    exact ⟨[], rfl, .none⟩

/-- The bracket after a zone ends it. -/
theorem zone_complete {zs : List Char} {z : Nat} (written : Written.Zone zs z) (cs : List Char) :
    zone (zs ++ ']' :: cs) = (z, ']' :: cs) := by
  cases written with
  | none => rfl
  | @number ds z spells small =>
      have digits := decimal_eq_some_iff.mpr ⟨ds, rfl, spells, (stops_bracket cs).here.ten⟩
      unfold zone
      simp only [List.cons_append, char, if_true, Option.bind_eq_bind, Option.bind_some, digits, if_pos small]

/-! ### Endpoints -/

theorem plain_eq_some_iff {e : Endpoint} :
    plain cs = some (e, rest) ↔ ∃ qs os ds p, cs = qs ++ ':' :: (ds ++ rest) ∧ Written.Quad qs os ∧
      Written.Port ds p ∧ EndsDigits 10 rest ∧ e = ⟨.v4 (Address.ofPieces 8 32 os), 0, p⟩ := by
  unfold plain v4
  constructor
  · intro read
    obtain ⟨⟨a, _⟩, older, read⟩ := Option.bind_eq_some_iff.mp read
    obtain ⟨⟨os, _⟩, octets, same⟩ := Option.bind_eq_some_iff.mp older
    obtain ⟨⟨p, _⟩, ports, ended⟩ := Option.bind_eq_some_iff.mp read
    cases same
    cases ended
    obtain ⟨qs, rfl, quad, -⟩ := quad_eq_some_iff.mp octets
    obtain ⟨ds, rfl, port, ends⟩ := port_eq_some_iff.mp ports
    exact ⟨qs, os, ds, p, rfl, quad, port, ends, rfl⟩
  · rintro ⟨qs, os, ds, p, rfl, quad, port, ends, rfl⟩
    have octets := quad_eq_some_iff.mpr ⟨qs, rfl, quad, (halts_colon (ds ++ rest)).ten⟩
    have ports := port_eq_some_iff.mpr ⟨ds, rfl, port, ends⟩
    simp only [octets, Option.bind_eq_bind, Option.bind_some, ports]

theorem bracketed_sound {e : Endpoint} (read : bracketed cs = some (e, rest)) :
    ∃ ds, cs = ds ++ rest ∧ Written.Endpoint ds e := by
  unfold bracketed at read
  obtain ⟨_, opened, read⟩ := Option.bind_eq_some_iff.mp read
  obtain ⟨⟨a, later⟩, newer, read⟩ := Option.bind_eq_some_iff.mp read
  obtain ⟨z, behind, zoned⟩ : ∃ z behind, zone later = (z, behind) := ⟨_, _, rfl⟩
  dsimp only at read
  rw [zoned] at read
  obtain ⟨_, closed, read⟩ := Option.bind_eq_some_iff.mp read
  obtain ⟨⟨p, _⟩, ports, ended⟩ := Option.bind_eq_some_iff.mp read
  cases ended
  obtain ⟨as, bits, cut, address, rfl⟩ := v6_sound newer
  obtain ⟨zs, cutZone, zone⟩ := zone_sound zoned
  have shut : behind = ']' :: _ := char_eq_some_iff.mp closed
  obtain ⟨ds, cutToo, port, -⟩ := port_eq_some_iff.mp ports
  refine ⟨'[' :: (as ++ (zs ++ ']' :: ':' :: ds)), ?_, .newer address zone port⟩
  rw [char_eq_some_iff.mp opened, cut, cutZone, shut, cutToo]
  simp

theorem bracketed_complete {as zs ds : List Char} {bits : BitVec 128} {z p : Nat} (address : Written.Newer as bits)
    (written : Written.Zone zs z) (port : Written.Port ds p) :
    bracketed ('[' :: (as ++ (zs ++ ']' :: ':' :: ds))) = some (⟨.v6 bits, z, p⟩, []) := by
  have stops : Stops (zs ++ ']' :: ':' :: ds) := by
    cases written with
    | none => exact stops_bracket _
    | number => exact stops_percent _
  have newer := v6_complete address stops
  have ports := port_eq_some_iff.mpr ⟨ds, congrArg _ (List.append_nil ds).symm, port, endsDigits_nil⟩
  unfold bracketed
  simp only [char, if_true, Option.bind_eq_bind, Option.bind_some, newer, zone_complete written, ports]

theorem plain_bracket (cs : List Char) : plain ('[' :: cs) = none := by
  have no_quad : quad .strict ('[' :: cs) = none := quad_eq_none (by simp [isDigit, digit?])
  unfold plain v4
  rw [no_quad]
  rfl

end Read

theorem whole_eq_some_iff {α : Type} {o : Option (α × List Char)} {a : α} :
    Read.whole o = some a ↔ o = some (a, []) := by
  unfold Read.whole
  split
  · simp
  · rename_i other
    simp only [reduceCtorEq, false_iff]
    rintro rfl
    exact other a rfl

/-- The texts that are read as addresses with ports are those of the grammar. -/
theorem Endpoint.parse?_eq_some_iff {cs : List Char} {e : Endpoint} :
    Endpoint.parse? cs = some e ↔ Written.Endpoint cs e := by
  unfold Endpoint.parse?
  rw [whole_eq_some_iff, Option.orElse_eq_orElse, Option.orElse_eq_or, Option.or_eq_some_iff]
  constructor
  · rintro (older | ⟨-, newer⟩)
    · obtain ⟨qs, os, ds, p, rfl, quad, port, -, rfl⟩ := Read.plain_eq_some_iff.mp older
      rw [List.append_nil]
      exact .older quad port
    · obtain ⟨ds, rfl, written⟩ := Read.bracketed_sound newer
      rwa [List.append_nil]
  · rintro (⟨quad, port⟩ | ⟨address, zone, port⟩)
    · refine .inl (Read.plain_eq_some_iff.mpr ⟨_, _, _, _, ?_, quad, port, Read.endsDigits_nil, rfl⟩)
      rw [List.append_nil]
    · exact .inr ⟨Read.plain_bracket _, Read.bracketed_complete address zone port⟩

end LinkKeeper.Net
