import LinkKeeper.Proofs.Net.Digits

/-!
Addresses and networks are read back as they are written.

A reader tries four octets wherever they may stand, and groups where that fails; so each lemma about a piece
says what must not follow it.

* `Net.longestZeroRun_spec`: what a double colon stands for.
* `Net.Read.quad_quadText`, `Net.Read.run_groupsText`: octets and groups.
* `Net.Address.parse?_chars`, `Net.Network.parse?_chars`: whole texts.
-/

namespace LinkKeeper.Net

open Text

/-! ### Pieces of an address -/

theorem Address.ofPieces_octets (bits : BitVec 32) :
    Address.ofPieces 8 32 ((Address.octets bits).map BitVec.toNat) = bits := by
  apply BitVec.eq_of_toNat_eq
  have bound := bits.isLt
  simp [Address.ofPieces, Address.octets, BitVec.extractLsb'_toNat, Nat.shiftRight_eq_div_pow]
  omega

theorem Address.ofPieces_groups (bits : BitVec 128) :
    Address.ofPieces 16 128 ((Address.groups bits).map BitVec.toNat) = bits := by
  apply BitVec.eq_of_toNat_eq
  have bound := bits.isLt
  simp [Address.ofPieces, Address.groups, List.range_succ, BitVec.extractLsb'_toNat, Nat.shiftRight_eq_div_pow]
  omega

/-- The pieces of an address that stands for one of the older family. -/
theorem ofPieces_mapped {bits : BitVec 128} {inner : BitVec 32} (mapped : mapped? bits = some inner)
    {a b c d : Nat} (octets : (Address.octets inner).map BitVec.toNat = [a, b, c, d]) :
    Address.ofPieces 16 128 [0, 0, 0, 0, 0, 0xffff, a * 256 + b, c * 256 + d] = bits := by
  unfold mapped? at mapped
  split at mapped
  · rename_i marked
    obtain rfl := Option.some.inj mapped
    have high := congrArg BitVec.toNat marked
    have bound := bits.isLt
    simp [Address.octets, BitVec.extractLsb'_toNat, Nat.shiftRight_eq_div_pow] at octets high
    obtain ⟨rfl, rfl, rfl, rfl⟩ := octets
    apply BitVec.eq_of_toNat_eq
    simp [Address.ofPieces]
    omega
  · cases mapped

/-! ### The double colon -/

theorem take_leadingZeros (gs : List (BitVec 16)) :
    gs.take (leadingZeros gs) = List.replicate (leadingZeros gs) 0 ∧ leadingZeros gs ≤ gs.length := by
  have front : gs.takeWhile (· = 0) <+: gs := List.takeWhile_prefix _
  have zeros : gs.takeWhile (· = 0) = List.replicate (leadingZeros gs) 0 := by
    refine List.eq_replicate_iff.mpr ⟨rfl, ?_⟩
    intro g mem
    simpa using List.all_eq_true.mp List.all_takeWhile g mem
  refine ⟨?_, front.length_le⟩
  rw [← zeros]
  exact (List.prefix_iff_eq_take.mp front).symm

/-- The longest run of zero groups lies among the groups and has only zeros. -/
theorem longestZeroRun_spec (gs : List (BitVec 16)) :
    (longestZeroRun gs).1 + (longestZeroRun gs).2 ≤ gs.length ∧
      (gs.drop (longestZeroRun gs).1).take (longestZeroRun gs).2 =
        List.replicate (longestZeroRun gs).2 0 := by
  unfold longestZeroRun
  generalize steps : List.range gs.length = indices
  have inside : ∀ i ∈ indices, i < gs.length := by
    intro i mem
    rw [← steps] at mem
    exact List.mem_range.mp mem
  clear steps
  suffices all : ∀ best : Nat × Nat, best.1 + best.2 ≤ gs.length →
      (gs.drop best.1).take best.2 = List.replicate best.2 0 →
      ∀ last, last = indices.foldl (fun best i => let here := leadingZeros (gs.drop i)
        if best.2 < here then (i, here) else best) best →
        last.1 + last.2 ≤ gs.length ∧ (gs.drop last.1).take last.2 = List.replicate last.2 0 from
    all (0, 0) (Nat.zero_le _) rfl _ rfl
  induction indices with
  | nil =>
      rintro best fits zeros last rfl
      exact ⟨fits, zeros⟩
  | cons i rest ih =>
      intro best fits zeros
      have here := take_leadingZeros (gs.drop i)
      have index := inside i List.mem_cons_self
      rw [List.length_drop] at here
      refine ih (fun j mem => inside j (List.mem_cons_of_mem _ mem)) _ ?_ ?_
      · dsimp only
        split
        · dsimp only
          omega
        · exact fits
      · dsimp only
        split
        · exact here.1
        · exact zeros

/-- Put back in their place, the zeros complete the groups. -/
theorem groups_eq_of_longestZeroRun (gs : List (BitVec 16)) :
    gs.take (longestZeroRun gs).1 ++ List.replicate (longestZeroRun gs).2 0 ++
      gs.drop ((longestZeroRun gs).1 + (longestZeroRun gs).2) = gs := by
  obtain ⟨-, zeros⟩ := longestZeroRun_spec gs
  rw [← zeros, List.append_assoc, ← List.drop_drop, List.take_append_drop, List.take_append_drop]

/-! ### Reading the pieces -/

namespace Read

variable {g : Grammar} {rest : List Char}

/-- The next character, if there is one, is neither a digit nor a point. -/
def Halts (rest : List Char) : Prop :=
  ∀ c, rest.head? = some c → isDigit 10 c = false ∧ isDigit 16 c = false ∧ c ≠ '.'

theorem Halts.ten (halts : Halts rest) : EndsDigits 10 rest := fun c front => (halts c front).1

theorem Halts.sixteen (halts : Halts rest) : EndsDigits 16 rest := fun c front => (halts c front).2.1

theorem halts_nil : Halts [] := fun _ front => nomatch front

theorem halts_colon (cs : List Char) : Halts (':' :: cs) := by
  intro c front
  obtain rfl := Option.some.inj front
  decide

theorem halts_slash (cs : List Char) : Halts ('/' :: cs) := by
  intro c front
  obtain rfl := Option.some.inj front
  decide

theorem endsDigits_point (cs : List Char) : EndsDigits 10 ('.' :: cs) := by
  intro c front
  obtain rfl := Option.some.inj front
  decide

theorem char_eq_some_iff {c : Char} {cs body : List Char} : char c cs = some body ↔ cs = c :: body := by
  cases cs with
  | nil => simp [char]
  | cons d cs => simp [char]

theorem octet_digits {n : Nat} (small : n < 256) (ends : EndsDigits 10 rest) :
    octet g (digits 10 n ++ rest) = some (n, rest) := by
  have short : ∀ most, some 3 = some most → 0 < most ∧ n < Nat.pow 10 most := by
    intro most same
    obtain rfl := Option.some.inj same
    exact ⟨by decide, Nat.lt_trans small (by decide)⟩
  unfold octet
  rw [number_digits reads_ten short g.leadingZeros ends]
  simp [small]

theorem quad_quadText (bits : BitVec 32) (ends : EndsDigits 10 rest) :
    quad g (quadText bits ++ rest) = some ((Address.octets bits).map BitVec.toNat, rest) := by
  have small (o : BitVec 8) : o.toNat < 256 := o.isLt
  unfold quad quadText Address.octets
  simp only [List.map_cons, List.map_nil, joined, List.append_assoc, List.cons_append]
  simp only [octet_digits (small _) (endsDigits_point _), octet_digits (small _) ends, char,
    Option.bind_eq_bind, Option.bind_some, if_true]

/-- Four octets need a point after the first digits. -/
theorem quad_eq_none {cs : List Char} (pointless : (cs.dropWhile (isDigit 10)).head? ≠ some '.') :
    quad g cs = none := by
  have first : ∀ n later, octet g cs = some (n, later) → later = cs.dropWhile (isDigit 10) := by
    intro n later read
    unfold octet number spanDigits at read
    dsimp only at read
    split at read
    · cases read
    · simp only [Option.bind_eq_bind, Option.bind_some] at read
      split at read
      · cases read
        rfl
      · cases read
  unfold quad
  cases read : octet g cs with
  | none => rfl
  | some result =>
      obtain ⟨n, later⟩ := result
      obtain rfl := first n later read
      cases front : cs.dropWhile (isDigit 10) with
      | nil => rfl
      | cons c others =>
          rw [front] at pointless
          have other : c ≠ '.' := fun same => pointless (by rw [same, List.head?_cons])
          simp [char, other]

theorem dropWhile_pointless {ds : List Char} (plain : ∀ c ∈ ds, c ≠ '.') (halts : Halts rest) :
    ((ds ++ rest).dropWhile (isDigit 10)).head? ≠ some '.' := by
  induction ds with
  | nil =>
      intro point
      cases rest with
      | nil => cases point
      | cons c cs =>
          obtain ⟨ten, -, other⟩ := halts c rfl
          simp [ten, other] at point
  | cons c ds ih =>
      rw [List.cons_append, List.dropWhile_cons]
      split
      · exact ih fun d mem => plain d (List.mem_cons_of_mem _ mem)
      · intro point
        exact plain c List.mem_cons_self (Option.some.inj point)

/-- The groups after the first, each with a colon in front. -/
def laterGroups (gs : List (BitVec 16)) : List Char := gs.flatMap fun x => ':' :: digits 16 x.toNat

theorem groupsText_cons (x : BitVec 16) (xs : List (BitVec 16)) :
    groupsText (x :: xs) = digits 16 x.toNat ++ laterGroups xs := by
  unfold groupsText laterGroups
  induction xs generalizing x with
  | nil => simp [joined]
  | cons y ys ih =>
      have onward := ih y
      rw [List.map_cons] at onward
      rw [List.map_cons, List.map_cons, joined, onward]
      · rfl
      · simp

theorem number_eq_none {base : Nat} {limit : Option Nat} {zeros : Bool} (ends : EndsDigits base rest) :
    number base limit zeros rest = none := by
  have none_front : rest.takeWhile (isDigit base) = [] := by
    cases rest with
    | nil => rfl
    | cons c cs => simp [ends c rfl]
  simp [number, spanDigits, none_front]

theorem ne_point_of_isDigit {c : Char} (digit : isDigit 16 c = true) : c ≠ '.' := by
  rintro rfl
  exact absurd digit (by decide)

theorem ne_point_of_mem_digits {n : Nat} : ∀ c ∈ digits 16 n, c ≠ '.' :=
  fun c mem => ne_point_of_isDigit (isDigit_of_mem_digits reads_sixteen c mem)

/-- A run takes a group that is next, and goes on: no point comes before the end of its digits. -/
theorem run_group {room : Nat} {first : Bool} {cs ds : List Char} {n : Nat} (spells : Spells 16 ds n)
    (short : ds.length ≤ 4) (halts : Halts rest)
    (next : (if first then some cs else char ':' cs) = some (ds ++ rest)) :
    run g (room + 1) first cs =
      ⟨n :: (run g room false rest).groups, (run g room false rest).endsInQuad, (run g room false rest).rest⟩ := by
  have no_quad : quad g (ds ++ rest) = none :=
    quad_eq_none (dropWhile_pointless (fun c mem => ne_point_of_isDigit (spells.digits c mem)) halts)
  have read : number 16 (some 4) true (ds ++ rest) = some (n, rest) := by
    refine number_eq_some_iff.mpr ⟨ds, rfl, spells, halts.sixteen, ?_, nofun⟩
    rintro _ ⟨⟩
    exact short
  rw [run, next]
  simp only [no_quad, ite_self, read]

/-- A group is written with four digits at most. -/
theorem length_digits_group (x : BitVec 16) : (digits 16 x.toNat).length ≤ 4 :=
  (Nat.length_toDigits_le_iff reads_sixteen.two_le (by decide)).mpr x.isLt

/-- It ends where no group is next. -/
theorem run_end {room : Nat} {first : Bool} {cs : List Char}
    (ends : ∀ body, (if first then some cs else char ':' cs) = some body → Halts body) :
    run g room first cs = ⟨[], false, cs⟩ := by
  cases room with
  | zero => rw [run]
  | succ room =>
      rw [run]
      cases next : if first then some cs else char ':' cs with
      | none => rfl
      | some body =>
          have halts := ends body next
          have plain : ∀ c ∈ ([] : List Char), c ≠ '.' := fun c mem => by cases mem
          have no_quad : quad g body = none := quad_eq_none (dropWhile_pointless plain halts)
          simp only [no_quad, ite_self, number_eq_none halts.sixteen]

/-- Neither a group nor a colon with a group after it is next. -/
structure Stops (rest : List Char) : Prop where
  here : Halts rest
  onward : ∀ body, rest = ':' :: body → Halts body

theorem stops_nil : Stops [] := ⟨halts_nil, fun _ same => nomatch same⟩

theorem stops_slash (cs : List Char) : Stops ('/' :: cs) := ⟨halts_slash cs, fun _ same => nomatch same⟩

theorem stops_colons (cs : List Char) : Stops (':' :: ':' :: cs) := by
  refine ⟨halts_colon _, ?_⟩
  intro body same
  obtain rfl := (List.cons.inj same).2
  exact halts_colon cs

theorem halts_laterGroups (gs : List (BitVec 16)) (halts : Halts rest) : Halts (laterGroups gs ++ rest) := by
  cases gs with
  | nil => exact halts
  | cons x xs => exact halts_colon _

theorem run_laterGroups (gs : List (BitVec 16)) {room : Nat} (fits : gs.length ≤ room) (stops : Stops rest) :
    run g room false (laterGroups gs ++ rest) = ⟨gs.map BitVec.toNat, false, rest⟩ := by
  induction gs generalizing room with
  | nil =>
      refine run_end ?_
      intro body next
      rw [if_neg Bool.false_ne_true] at next
      exact stops.onward body (char_eq_some_iff.mp next)
  | cons x xs ih =>
      cases room with
      | zero => cases fits
      | succ room =>
          have onward := ih (Nat.le_of_succ_le_succ fits)
          rw [run_group (spells_digits reads_sixteen x.toNat) (length_digits_group x)
            (halts_laterGroups xs stops.here) (by simp [laterGroups, char]), onward]
          rfl

/-- A run reads groups as they are written, as far as they go. -/
theorem run_groupsText (gs : List (BitVec 16)) {room : Nat} (fits : gs.length ≤ room) (stops : Stops rest) :
    run g room true (groupsText gs ++ rest) = ⟨gs.map BitVec.toNat, false, rest⟩ := by
  cases gs with
  | nil =>
      refine run_end ?_
      intro body next
      obtain rfl := Option.some.inj next
      exact stops.here
  | cons x xs =>
      cases room with
      | zero => cases fits
      | succ room =>
          have next : groupsText (x :: xs) ++ rest = digits 16 x.toNat ++ (laterGroups xs ++ rest) := by
            rw [groupsText_cons, List.append_assoc]
          rw [run_group (spells_digits reads_sixteen x.toNat) (length_digits_group x)
              (halts_laterGroups xs stops.here) (by rw [if_pos rfl, next]),
            run_laterGroups xs (Nat.le_of_succ_le_succ fits) stops]
          rfl

/-- While there is room for two groups, four octets are read as such. -/
theorem run_quadText {room : Nat} (space : room ≠ 0) (bits : BitVec 32) {a b c d : Nat}
    (octets : (Address.octets bits).map BitVec.toNat = [a, b, c, d]) (ends : EndsDigits 10 rest) :
    run g (room + 1) false (':' :: (quadText bits ++ rest)) = ⟨[a * 256 + b, c * 256 + d], true, rest⟩ := by
  rw [run]
  simp only [Bool.false_eq_true, if_false, char, if_true, if_neg space, quad_quadText bits ends, octets]
  rfl

/-! ### Reading whole addresses -/

theorem v4_quadText (bits : BitVec 32) (ends : EndsDigits 10 rest) :
    v4 g (quadText bits ++ rest) = some (.v4 bits, rest) := by
  unfold v4
  rw [quad_quadText bits ends]
  simp only [Option.bind_eq_bind, Option.bind_some, Address.ofPieces_octets]

/-- A double colon stands for the groups that are missing around it. -/
theorem v6_around {cs tail : List Char} {front back : List Nat} {quad : Bool} (few : front.length < 8)
    (head : run g 8 true cs = ⟨front, false, ':' :: ':' :: tail⟩)
    (onward : run g (8 - front.length - if g.emptyGap then 0 else 1) true tail = ⟨back, quad, rest⟩) :
    v6 g cs =
      some (.v6 (Address.ofPieces 16 128
        (front ++ List.replicate (8 - front.length - back.length) 0 ++ back)), rest) := by
  unfold v6
  simp only [head, if_neg (Nat.ne_of_lt few), Bool.false_eq_true, if_false, onward]

/-- A text of groups, or of groups around a double colon. -/
theorem v6_groups {bits : BitVec 128} (plain : mapped? bits = none) (stops : Stops rest) :
    v6 g (v6Text bits ++ rest) = some (.v6 bits, rest) := by
  have count : (Address.groups bits).length = 8 := rfl
  have whole := groups_eq_of_longestZeroRun (Address.groups bits)
  have inside := (longestZeroRun_spec (Address.groups bits)).1
  have word := Address.ofPieces_groups bits
  unfold v6Text
  rw [plain]
  dsimp only
  generalize longestZeroRun (Address.groups bits) = zeros at whole inside
  obtain ⟨start, length⟩ := zeros
  dsimp only at whole inside ⊢
  generalize Address.groups bits = gs at count whole inside word
  by_cases several : 1 < length
  -- The first run stops at the double colon, the second at the end; the zeros between them are filled in.
  · have front : ((gs.take start).map BitVec.toNat).length = start := by
      rw [List.length_map, List.length_take]
      omega
    have back : ((gs.drop (start + length)).map BitVec.toNat).length = 8 - (start + length) := by
      rw [List.length_map, List.length_drop, count]
    have room : (gs.drop (start + length)).length ≤
        8 - ((gs.take start).map BitVec.toNat).length - if g.emptyGap then 0 else 1 := by
      rw [front, List.length_drop]
      split <;> omega
    have gap : 8 - start - (8 - (start + length)) = length := by omega
    have zeros : (List.replicate length (0 : BitVec 16)).map BitVec.toNat = List.replicate length 0 := by
      simp
    have text : groupsText (gs.take start) ++ "::".toList ++ groupsText (gs.drop (start + length)) ++ rest =
        groupsText (gs.take start) ++ ':' :: ':' :: (groupsText (gs.drop (start + length)) ++ rest) := by
      simp
    have short : (gs.take start).length ≤ 8 := by
      rw [List.length_take]
      omega
    rw [if_pos several, text, v6_around (by omega) (run_groupsText _ short (stops_colons _))
      (run_groupsText _ room stops), front, back, gap, ← zeros, ← List.map_append, ← List.map_append, whole, word]
  · rw [if_neg several]
    unfold v6
    rw [run_groupsText gs (Nat.le_of_eq count) stops]
    simp [count, word]

/-- A text that ends in four octets. -/
theorem v6_mapped {bits : BitVec 128} {inner : BitVec 32} (mapped : mapped? bits = some inner)
    (ends : EndsDigits 10 rest) : v6 g (v6Text bits ++ rest) = some (.v6 bits, rest) := by
  obtain ⟨a, b, c, d, octets⟩ : ∃ a b c d, (Address.octets inner).map BitVec.toNat = [a, b, c, d] :=
    ⟨_, _, _, _, rfl⟩
  have text : v6Text bits ++ rest = groupsText [] ++
      ':' :: ':' :: (digits 16 (0xffff : BitVec 16).toNat ++ (':' :: (quadText inner ++ rest))) := by
    unfold v6Text
    rw [mapped]
    simp
    rfl
  obtain ⟨room, space, same⟩ :
      ∃ room, room ≠ 0 ∧ 8 - ([] : List Nat).length - (if g.emptyGap then 0 else 1) = room + 2 := by
    cases g.emptyGap with
    | true => exact ⟨6, by decide, rfl⟩
    | false => exact ⟨5, by decide, rfl⟩
  have onward :
      run g (room + 2) true (digits 16 (0xffff : BitVec 16).toNat ++ (':' :: (quadText inner ++ rest))) =
        ⟨[0xffff, a * 256 + b, c * 256 + d], true, rest⟩ := by
    rw [run_group (spells_digits reads_sixteen _) (length_digits_group 0xffff) (halts_colon _)
      (by rw [if_pos rfl]), run_quadText space inner octets ends]
    rfl
  rw [text, v6_around (by decide) (run_groupsText [] (Nat.zero_le 8) (stops_colons _)) (same ▸ onward)]
  exact congrArg (fun word => some (Address.v6 word, rest)) (ofPieces_mapped mapped octets)

theorem v6_v6Text (bits : BitVec 128) (stops : Stops rest) :
    v6 g (v6Text bits ++ rest) = some (.v6 bits, rest) := by
  cases mapped : mapped? bits with
  | none => exact v6_groups mapped stops
  | some inner => exact v6_mapped mapped stops.here.ten

/-- A colon comes before any point in a text of groups that goes on with one. -/
theorem colon_of_groupsText (gs : List (BitVec 16)) (cs : List Char) :
    ∃ ds tail, groupsText gs ++ ':' :: cs = ds ++ ':' :: tail ∧ ∀ c ∈ ds, c ≠ '.' := by
  cases gs with
  | nil => exact ⟨[], cs, rfl, by simp⟩
  | cons x xs =>
      cases xs with
      | nil => exact ⟨digits 16 x.toNat, cs, rfl, ne_point_of_mem_digits⟩
      | cons y ys =>
          refine ⟨digits 16 x.toNat, digits 16 y.toNat ++ laterGroups ys ++ ':' :: cs, ?_, ne_point_of_mem_digits⟩
          rw [groupsText_cons]
          simp [laterGroups]

/-- So does it in the text of an address of the newer family. -/
theorem colon_of_v6Text (bits : BitVec 128) (cs : List Char) :
    ∃ ds tail, v6Text bits ++ cs = ds ++ ':' :: tail ∧ ∀ c ∈ ds, c ≠ '.' := by
  unfold v6Text
  cases mapped? bits with
  | some inner => exact ⟨[], ":ffff:".toList ++ quadText inner ++ cs, rfl, by simp⟩
  | none =>
      dsimp only
      split
      · obtain ⟨ds, tail, text, plain⟩ := colon_of_groupsText
          ((Address.groups bits).take (longestZeroRun (Address.groups bits)).1)
          (':' :: (groupsText ((Address.groups bits).drop ((longestZeroRun (Address.groups bits)).1 +
            (longestZeroRun (Address.groups bits)).2)) ++ cs))
        refine ⟨ds, tail, ?_, plain⟩
        rw [← text]
        simp
      · have split : Address.groups bits = bits.extractLsb' (16 * 7) 16 :: bits.extractLsb' (16 * 6) 16 ::
            (Address.groups bits).drop 2 := rfl
        refine ⟨digits 16 (bits.extractLsb' (16 * 7) 16).toNat,
          digits 16 (bits.extractLsb' (16 * 6) 16).toNat ++ laterGroups ((Address.groups bits).drop 2) ++ cs, ?_,
          ne_point_of_mem_digits⟩
        rw [split, groupsText_cons]
        simp [laterGroups]

theorem v4_v6Text (bits : BitVec 128) (cs : List Char) : v4 g (v6Text bits ++ cs) = none := by
  obtain ⟨ds, tail, text, plain⟩ := colon_of_v6Text bits cs
  unfold v4
  rw [text, quad_eq_none (dropWhile_pointless plain (halts_colon tail))]
  rfl

theorem address_chars (a : Address) (stops : Stops rest) : address g (a.chars ++ rest) = some (a, rest) := by
  unfold address
  cases a with
  | v4 bits =>
      have read := v4_quadText (g := g) bits stops.here.ten
      simp only [Address.chars, read]
      rfl
  | v6 bits =>
      simp only [Address.chars, v4_v6Text, v6_v6Text bits stops]
      rfl

/-- An address, a slash and the length of the prefix. -/
theorem network_chars {read : List Char → Option (Address × List Char)} {most : Nat} (n : Network)
    (reads : ∀ rest, Stops rest → read (n.address.chars ++ rest) = some (n.address, rest))
    (short : 0 < most ∧ n.length < Nat.pow 10 most) : network read most n.chars = some (n, []) := by
  have length := @number_digits 10 n.length (some most) [] reads_ten
    (fun limit same => by rwa [← Option.some.inj same]) true halts_nil.ten
  rw [List.append_nil] at length
  unfold network Network.chars
  rw [reads _ (stops_slash _)]
  simp only [Option.bind_eq_bind, Option.bind_some, char, if_true, length,
    Network.ofLength?_eq_some_iff.mpr ⟨rfl, rfl⟩]

end Read

/-! ### Whole texts -/

theorem mem_joined {separator c : Char} {ts : List (List Char)} (mem : c ∈ joined separator ts) :
    c = separator ∨ ∃ t ∈ ts, c ∈ t := by
  induction ts with
  | nil => cases mem
  | cons t rest ih =>
      cases rest with
      | nil => exact .inr ⟨t, List.mem_cons_self, mem⟩
      | cons u others =>
          rcases List.mem_append.mp mem with here | later
          · exact .inr ⟨t, List.mem_cons_self, here⟩
          · rcases List.mem_cons.mp later with same | later
            · exact .inl same
            · exact (ih later).imp id fun ⟨x, among, inside⟩ => ⟨x, List.mem_cons_of_mem _ among, inside⟩

theorem mem_quadText_cases {c : Char} {bits : BitVec 32} (mem : c ∈ quadText bits) :
    c = '.' ∨ isDigit 10 c = true := by
  refine (mem_joined mem).imp id ?_
  rintro ⟨t, among, inside⟩
  obtain ⟨o, -, rfl⟩ := List.mem_map.mp among
  exact isDigit_of_mem_digits reads_ten _ inside

theorem mem_groupsText_cases {c : Char} {gs : List (BitVec 16)} (mem : c ∈ groupsText gs) :
    c = ':' ∨ isDigit 16 c = true := by
  refine (mem_joined mem).imp id ?_
  rintro ⟨t, among, inside⟩
  obtain ⟨g, -, rfl⟩ := List.mem_map.mp among
  exact isDigit_of_mem_digits reads_sixteen _ inside

/-- The text of an address is made of digits, points and colons. -/
theorem Address.mem_chars_cases {c : Char} {a : Address} (mem : c ∈ a.chars) :
    (c = '.' ∨ c = ':') ∨ isDigit 10 c = true ∨ isDigit 16 c = true := by
  have older {bits : BitVec 32} (mem : c ∈ quadText bits) :
      (c = '.' ∨ c = ':') ∨ isDigit 10 c = true ∨ isDigit 16 c = true :=
    (mem_quadText_cases mem).imp Or.inl Or.inl
  have newer {gs : List (BitVec 16)} (mem : c ∈ groupsText gs) :
      (c = '.' ∨ c = ':') ∨ isDigit 10 c = true ∨ isDigit 16 c = true :=
    (mem_groupsText_cases mem).imp Or.inr Or.inr
  cases a with
  | v4 bits => exact older mem
  | v6 bits =>
      have read : c ∈ v6Text bits := mem
      unfold v6Text at read
      cases mapped : mapped? bits with
      | some inner =>
          rw [mapped] at read
          rcases List.mem_append.mp read with marked | inside
          · have each : ("::ffff:".toList.all fun d => d == ':' || isDigit 16 d) = true := by decide
            have own := List.all_eq_true.mp each c marked
            rw [Bool.or_eq_true, beq_iff_eq] at own
            exact own.imp .inr .inr
          · exact older inside
      | none =>
          rw [mapped] at read
          dsimp only at read
          split at read
          · simp only [List.mem_append] at read
            rcases read with (front | gap) | back
            · exact newer front
            · have each : ("::".toList.all (· == ':')) = true := by decide
              exact .inl (.inr (beq_iff_eq.mp (List.all_eq_true.mp each c gap)))
            · exact newer back
          · exact newer read

/-- A slash tells a network from an address. -/
theorem Address.slash_notMem_chars (a : Address) : '/' ∉ a.chars := by
  intro mem
  rcases mem_chars_cases mem with (point | colon) | digit | digit
  · exact absurd point (by decide)
  · exact absurd colon (by decide)
  · exact absurd digit (by decide)
  · exact absurd digit (by decide)

theorem Network.slash_mem_chars (n : Network) : '/' ∈ n.chars :=
  List.mem_append_right _ List.mem_cons_self

/-- An address is read back as it is written. -/
theorem Address.parse?_chars (a : Address) : Address.parse? a.chars = some a := by
  have read := Read.address_chars (g := .strict) a Read.stops_nil
  rw [List.append_nil] at read
  unfold Address.parse?
  rw [read]
  rfl

/-- So is a network. -/
theorem Network.parse?_chars (n : Network) : Network.parse? n.chars = some n := by
  have fits := n.length_le
  unfold Network.parse?
  obtain ⟨a, length, _⟩ := n
  cases a with
  | v4 bits =>
      have short : 0 < 2 ∧ length < Nat.pow 10 2 :=
        ⟨by decide, Nat.lt_of_le_of_lt fits (show 32 < 100 by decide)⟩
      rw [Read.network_chars ⟨.v4 bits, length, fits⟩
        (fun rest stops => Read.v4_quadText (g := .lenient) bits stops.here.ten) short]
      rfl
  | v6 bits =>
      have short : 0 < 3 ∧ length < Nat.pow 10 3 :=
        ⟨by decide, Nat.lt_of_le_of_lt fits (show 128 < 1000 by decide)⟩
      have older : Read.network (Read.v4 .lenient) 2 (Network.chars ⟨.v6 bits, length, fits⟩) = none := by
        unfold Read.network Network.chars
        simp only [Address.chars, Read.v4_v6Text]
        rfl
      rw [older, Read.network_chars ⟨.v6 bits, length, fits⟩
        (fun rest stops => Read.v6_v6Text (g := .lenient) bits stops) short]
      rfl

end LinkKeeper.Net
