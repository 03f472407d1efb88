import PodcastLedger.Proofs.Canonical.Numerals
import PodcastLedger.Proofs.Canonical.Texts
import PodcastLedger.Web.Ipv6

/-!
# Written IPv6 addresses

An IPv6 address that is written and read again is the same: `Ipv6.parse_to_text`. Which run of zeros
is left out does not matter, as reading fills the gap with as many zeros as are missing. What is
read has eight groups of 16 bits (`Ipv6.fits_of_parse`).
-/

namespace PodcastLedger.Web.Ipv6

/-- The address has eight groups of 16 bits. -/
structure Fits (address : Ipv6) : Prop where
  eight : address.groups.length = 8
  small : ∀ group ∈ address.groups, group < 65536

/-! ## Reading what is written -/

variable {room group : Nat} {groups : List Nat} {rest : List Char}

/-- Groups are added one after the other. -/
theorem append_append (sides : Sides) (first rest : List Nat) :
    (sides.append first).append rest = sides.append (first ++ rest) := by
  unfold Sides.append
  cases sides.back with
  | none => simp
  | some back => simp

/-- The digits of a group are hexadecimal. -/
theorem is_hex_of_mem {c : Char} (hmem : c ∈ Nat.toDigits 16 group) :
    (Text.digitOf? 16 c).isSome = true := by
  obtain ⟨value, hvalue, rfl⟩ := Text.exists_of_mem_to_digits (by decide) hmem
  rw [Text.digit_of_digit_char (by decide) hvalue]
  rfl

/-- The digits of a group end at what is no digit. -/
theorem take_digits (hgroup : group < 65536) (tail : List Char)
    (htail : ∀ c ∈ tail.head?, (Text.digitOf? 16 c).isSome = false) :
    (((Nat.toDigits 16 group ++ tail).take 4).takeWhile fun c => (Text.digitOf? 16 c).isSome) =
      Nat.toDigits 16 group := by
  have hlength : (Nat.toDigits 16 group).length ≤ 4 :=
    (Nat.length_toDigits_le_iff (by decide) (by decide)).mpr hgroup
  rw [List.take_append, List.take_of_length_le hlength,
    List.takeWhile_append_of_pos fun c hc => is_hex_of_mem hc]
  cases tail with
  | nil => simp
  | cons c rest =>
      have hc := htail c rfl
      cases 4 - (Nat.toDigits 16 group).length with
      | zero => simp
      | succ count => simp [hc]

/-- A colon is no digit. -/
theorem colon_of_head {c : Char} (hmem : c ∈ (':' :: rest).head?) :
    (Text.digitOf? 16 c).isSome = false := by
  obtain rfl : ':' = c := by simpa using hmem
  decide

/-- A group begins with a digit. -/
theorem exists_digits (group : Nat) :
    ∃ first others, Nat.toDigits 16 group = first :: others ∧ first ≠ ':' := by
  cases hdigits : Nat.toDigits 16 group with
  | nil => exact absurd hdigits Nat.toDigits_ne_nil
  | cons first others =>
      refine ⟨first, others, rfl, ?_⟩
      rintro rfl
      have hmem : ':' ∈ Nat.toDigits 16 group := by
        rw [hdigits]
        exact List.mem_cons_self
      exact absurd (is_hex_of_mem hmem) (by decide)

/-- A group is read up to the end. -/
theorem read_last_group (room : Nat) (sides : Sides) (hgroup : group < 65536) :
    readGroups (room + 1) sides (Nat.toDigits 16 group) = some (sides.append [group]) := by
  have hread := Text.number_of_to_digits (by decide : 1 < 16) (by decide) group
  have hend := take_digits hgroup [] nofun
  obtain ⟨first, others, hdigits, hfirst⟩ := exists_digits group
  rw [List.append_nil, hdigits] at hend
  rw [hdigits] at hread ⊢
  rw [readGroups]
  · simp only [hend, hread, List.drop_length]
  · nofun
  · rintro _ hcons
    exact hfirst (List.cons.inj hcons).1

/-- A group is read up to a colon with something behind it. -/
theorem read_group (room : Nat) (sides : Sides) (hgroup : group < 65536) (hrest : rest ≠ []) :
    readGroups (room + 1) sides (Nat.toDigits 16 group ++ ':' :: rest) =
      readGroups room (sides.append [group]) rest := by
  have hread := Text.number_of_to_digits (by decide : 1 < 16) (by decide) group
  have hcolon := take_digits hgroup (':' :: rest) fun c hc => colon_of_head hc
  obtain ⟨first, others, hdigits, hfirst⟩ := exists_digits group
  rw [hdigits] at hread hcolon ⊢
  rw [List.cons_append] at hcolon ⊢
  rw [readGroups]
  · simp only [hcolon, hread]
    rw [← List.cons_append, List.drop_left]
    simp [hrest]
  · nofun
  · rintro _ hcons
    exact hfirst (List.cons.inj hcons).1

/-- The text of several groups is that of the first and, behind a colon, that of the others. -/
theorem groups_text_cons (first second : Nat) (others : List Nat) :
    groupsText (first :: second :: others) =
      Nat.toDigits 16 first ++ ':' :: groupsText (second :: others) := by
  unfold groupsText
  rw [List.map_cons, List.map_cons, List.intercalate_cons_cons, List.append_assoc]
  rfl

/-- The text of groups is not empty if there are groups. -/
theorem groups_text_ne_nil (first : Nat) (others : List Nat) : groupsText (first :: others) ≠ [] := by
  cases others with
  | nil =>
      unfold groupsText
      rw [List.map_cons, List.map_nil, List.intercalate_singleton]
      exact Nat.toDigits_ne_nil
  | cons second others =>
      rw [groups_text_cons]
      simp

/-- Groups that are written are read as long as there is room. -/
theorem read_groups_text (sides : Sides) (hsmall : ∀ group ∈ groups, group < 65536)
    (hroom : groups.length ≤ room) :
    readGroups room sides (groupsText groups) = some (sides.append groups) := by
  induction groups generalizing room sides with
  | nil =>
      have happend : sides.append [] = sides := by
        unfold Sides.append
        cases sides with
        | mk front back => cases back <;> simp
      rw [happend]
      cases room <;> rfl
  | cons first others ih =>
      obtain ⟨hfirst, hothers⟩ := List.forall_mem_cons.mp hsmall
      cases room with
      | zero => simp at hroom
      | succ room =>
          cases others with
          | nil =>
              have hread := read_last_group room sides hfirst
              simpa [groupsText] using hread
          | cons second others =>
              have hread := read_group room sides hfirst (groups_text_ne_nil second others)
              rw [groups_text_cons, hread, ih _ hothers (by simpa using hroom), append_append]
              rfl

/-- Groups in front of a gap are read, and the gap is counted as a group of zeros. -/
theorem read_to_gap (room : Nat) (front : List Nat) (rest : List Char) (hgroups : groups ≠ [])
    (hsmall : ∀ group ∈ groups, group < 65536) :
    readGroups (room + 1 + groups.length) ⟨front, none⟩ (groupsText groups ++ ':' :: ':' :: rest) =
      readGroups room ⟨front ++ groups ++ [0], some []⟩ rest := by
  induction groups generalizing front with
  | nil => exact absurd rfl hgroups
  | cons first others ih =>
      obtain ⟨hfirst, hothers⟩ := List.forall_mem_cons.mp hsmall
      cases others with
      | nil =>
          have hread := read_group (room + 1) ⟨front, none⟩ hfirst (List.cons_ne_nil ':' rest)
          have htext : groupsText [first] = Nat.toDigits 16 first := by simp [groupsText]
          rw [htext]
          refine hread.trans ?_
          rfl
      | cons second others =>
          have hbehind : groupsText (second :: others) ++ ':' :: ':' :: rest ≠ [] := by simp
          have hread := read_group (room + 1 + (second :: others).length) ⟨front, none⟩ hfirst
            hbehind
          rw [groups_text_cons, List.append_assoc, List.cons_append]
          refine hread.trans ?_
          have hothers := ih (front ++ [first]) (List.cons_ne_nil _ _) hothers
          rw [List.append_assoc front] at hothers
          exact hothers

/-! ## The gap -/

/-- The groups are those in front of a run of zeros, the zeros, and those behind them. -/
theorem split_at_zeros (groups : List Nat) (start : Nat) :
    groups = groups.take start ++ List.replicate (zerosFrom groups start) 0 ++
      groups.drop (start + zerosFrom groups start) := by
  have hzeros : (groups.drop start).takeWhile (· == 0) =
      List.replicate (zerosFrom groups start) 0 := by
    refine List.eq_replicate_iff.mpr ⟨rfl, fun group hmem => ?_⟩
    exact beq_iff_eq.mp (List.all_eq_true.mp (List.all_takeWhile (p := (· == 0))) group hmem)
  have hbehind : groups.drop (start + zerosFrom groups start) =
      (groups.drop start).dropWhile (· == 0) := by
    rw [← List.drop_drop]
    conv => lhs; rw [← List.takeWhile_append_dropWhile (p := (· == 0)) (l := groups.drop start)]
    exact List.drop_left
  rw [hbehind, ← hzeros, List.append_assoc, List.takeWhile_append_dropWhile,
    List.take_append_drop]

/-- A gap is filled with the zeros that were left out. -/
theorem to_groups_of_gap {front back : List Nat} {count : Nat}
    (height : front.length + count + back.length = 8) (hcount : 0 < count) :
    Sides.toGroups? ⟨front ++ [0], some back⟩ =
      some (front ++ List.replicate count 0 ++ back) := by
  cases count with
  | zero => cases hcount
  | succ count =>
      have hmissing : 8 - (front ++ [0]).length - back.length = count := by
        rw [List.length_append, List.length_singleton]
        omega
      unfold Sides.toGroups?
      dsimp only
      rw [hmissing, List.replicate_succ]
      simp

/-- What is read of a text before the missing zeros are filled in. -/
def readSides (text : List Char) : Option Sides :=
  match text with
  | ':' :: ':' :: rest => readGroups 7 ⟨[0], some []⟩ rest
  | ':' :: _ => none
  | _ => readGroups 8 ⟨[], none⟩ text

/-- The address consists of the groups that are read. -/
theorem parse_eq (text : List Char) :
    parse text =
      match (readSides text).bind Sides.toGroups? with
      | some groups => .ok ⟨groups⟩
      | none => .error .ipv6 := rfl

/-- The groups that are read make up the address. -/
theorem parse_of_sides {text : List Char} {sides : Sides} (hread : readSides text = some sides)
    (hgroups : sides.toGroups? = some groups) : parse text = .ok ⟨groups⟩ := by
  rw [parse_eq, hread, Option.bind_some, hgroups]

/-- A text that begins with a group is read from the first group on. -/
theorem read_from_group (hgroups : groups ≠ []) (rest : List Char) :
    readSides (groupsText groups ++ rest) =
      readGroups 8 ⟨[], none⟩ (groupsText groups ++ rest) := by
  have hhead : ∃ digit behind, groupsText groups ++ rest = digit :: behind ∧ digit ≠ ':' := by
    cases groups with
    | nil => exact absurd rfl hgroups
    | cons first others =>
        obtain ⟨digit, digits, hdigits, hcolon⟩ := exists_digits first
        cases others with
        | nil =>
            refine ⟨digit, digits ++ rest, ?_, hcolon⟩
            simp [groupsText, hdigits]
        | cons second others =>
            rw [groups_text_cons, hdigits]
            exact ⟨digit, _, rfl, hcolon⟩
  obtain ⟨digit, behind, hhead, hcolon⟩ := hhead
  rw [hhead]
  unfold readSides
  split
  · next hcons => exact absurd (List.cons.inj hcons).1 hcolon
  · next hcons => exact absurd (List.cons.inj hcons).1 hcolon
  · rfl

/-- Groups that are written with a gap are read. -/
theorem parse_gap {front back : List Nat} {count : Nat}
    (height : front.length + count + back.length = 8) (hcount : 2 ≤ count)
    (hfront : ∀ group ∈ front, group < 65536) (hback : ∀ group ∈ back, group < 65536) :
    parse (groupsText front ++ [':', ':'] ++ groupsText back) =
      .ok ⟨front ++ List.replicate count 0 ++ back⟩ := by
  have hgroups := to_groups_of_gap height (by omega : 0 < count)
  refine parse_of_sides ?_ hgroups
  cases front with
  | nil =>
      show readGroups 7 ⟨[0], some []⟩ (groupsText back) = _
      rw [read_groups_text _ hback (by simp at height; omega)]
      rfl
  | cons first others =>
      rw [List.append_assoc, read_from_group (List.cons_ne_nil _ _)]
      have hroom : 8 = back.length + (count - 1) + 1 + (first :: others).length := by omega
      have hgap := read_to_gap (back.length + (count - 1)) [] (groupsText back)
        (List.cons_ne_nil first others) hfront
      rw [← hroom] at hgap
      refine hgap.trans ?_
      rw [read_groups_text _ hback (by omega)]
      rfl

/-- An address that is written and read again is the same. -/
theorem parse_to_text {address : Ipv6} (hfits : address.Fits) :
    parse address.toText = .ok address := by
  obtain ⟨height, hsmall⟩ := hfits
  cases address with
  | mk groups =>
      dsimp only at height hsmall
      have hsplit := split_at_zeros groups (longestZeroRun groups)
      unfold toText
      dsimp only
      -- Where the gap is does not matter, only that zeros stand there.
      generalize longestZeroRun groups = start at hsplit ⊢
      generalize zerosFrom groups start = count at hsplit ⊢
      split
      · next hcount =>
          have hlength := congrArg List.length hsplit
          rw [List.length_append, List.length_append, List.length_replicate, height] at hlength
          have hread := parse_gap hlength.symm hcount
            (fun group hmem => hsmall group (List.mem_of_mem_take hmem))
            (fun group hmem => hsmall group (List.mem_of_mem_drop hmem))
          rwa [← hsplit] at hread
      · have hgroups : groups ≠ [] := by
          rintro rfl
          cases height
        have hread := read_groups_text ⟨[], none⟩ hsmall (Nat.le_of_eq height)
        rw [← List.append_nil (groupsText groups), ← read_from_group hgroups] at hread
        rw [← List.append_nil (groupsText groups)]
        refine parse_of_sides hread ?_
        show (if groups.length = 8 then some groups else none) = _
        exact if_pos height

/-! ## What is read -/

/-- The groups on both sides have 16 bits, and there are eight at most. -/
structure Sides.Fit (sides : Sides) (room : Nat) : Prop where
  room : sides.front.length + (sides.back.getD []).length + room ≤ 8
  front : ∀ group ∈ sides.front, group < 65536
  back : ∀ group ∈ sides.back.getD [], group < 65536

/-- Groups that are added take up room. -/
theorem Sides.Fit.append {sides : Sides} {room : Nat} (hfit : sides.Fit (room + groups.length))
    (hsmall : ∀ group ∈ groups, group < 65536) : (sides.append groups).Fit room := by
  obtain ⟨hroom, hfront, hback⟩ := hfit
  unfold Sides.append
  cases hsides : sides.back with
  | none =>
      rw [hsides] at hroom hback
      refine ⟨?_, List.forall_mem_append.mpr ⟨hfront, hsmall⟩, List.forall_mem_nil _⟩
      simp at hroom ⊢
      omega
  | some back =>
      rw [hsides] at hroom hback
      refine ⟨?_, hfront, List.forall_mem_append.mpr ⟨hback, hsmall⟩⟩
      simp at hroom ⊢
      omega

/-- Room that is not taken up does no harm. -/
theorem Sides.Fit.mono {sides : Sides} {room less : Nat} (hfit : sides.Fit room)
    (hless : less ≤ room) : sides.Fit less :=
  ⟨Nat.le_trans (Nat.add_le_add_left hless _) hfit.room, hfit.front, hfit.back⟩

/-- A group that is read has 16 bits. -/
theorem group_lt {text : List Char} {isHex : Char → Bool}
    (hnumber : Text.numberOf? 16 ((text.take 4).takeWhile isHex) = some group) :
    group < 65536 := by
  have hlength : ((text.take 4).takeWhile isHex).length ≤ 4 :=
    Nat.le_trans (List.takeWhile_prefix isHex).length_le (List.length_take_le 4 text)
  calc group < 16 ^ ((text.take 4).takeWhile isHex).length := Text.number_of_lt hnumber
    _ ≤ 16 ^ 4 := Nat.pow_le_pow_right (by decide) hlength

/-- A decimal byte is one. -/
theorem decimal_byte_lt {digits : List Char} {byte : Nat} (hbyte : decimalByte? digits = some byte) :
    byte < 256 := by
  unfold decimalByte? at hbyte
  obtain ⟨value, _, hvalue⟩ := Option.bind_eq_some_iff.mp hbyte
  split at hvalue
  · cases hvalue
  · next hsmall =>
      obtain rfl := Option.some.inj hvalue
      omega

/-- An IPv4 address at the end makes up two groups. -/
theorem embedded_fits {text : List Char} (hread : embeddedIpv4? text = some groups) :
    groups.length = 2 ∧ ∀ group ∈ groups, group < 65536 := by
  unfold embeddedIpv4? at hread
  obtain ⟨bytes, hbytes, hread⟩ := Option.bind_eq_some_iff.mp hread
  have hsmall : ∀ byte ∈ bytes, byte < 256 := by
    intro byte hmem
    obtain ⟨digits, _, hbyte⟩ := exists_of_mem_results hbytes hmem
    exact decimal_byte_lt hbyte
  split at hread
  · next first second third fourth =>
      obtain rfl := Option.some.inj hread
      simp at hsmall
      refine ⟨rfl, ?_⟩
      simp
      omega
  · cases hread

/-- What is read fits if what was there before did. -/
theorem fit_of_read {sides result : Sides} {text : List Char} (hfit : sides.Fit room)
    (hread : readGroups room sides text = some result) : result.Fit 0 := by
  fun_induction readGroups room sides text with
  | case1 room sides =>
      obtain rfl := Option.some.inj hread
      exact hfit.mono (Nat.zero_le room)
  | case2 => cases hread
  | case3 => cases hread
  | case4 room sides rest hgap ih =>
      -- The gap takes the place of one group at least.
      refine ih ?_ hread
      obtain ⟨hroom, hfront, _⟩ := hfit
      refine ⟨?_, ?_, List.forall_mem_nil _⟩
      · simp at hroom ⊢
        omega
      · exact List.forall_mem_append.mpr ⟨hfront, by simp⟩
  | case5 room sides text hempty hcolon isHex digits group hend hnumber =>
      obtain rfl := Option.some.inj hread
      have hlt : ∀ other ∈ [group], other < 65536 := by simpa using group_lt hnumber
      exact (hfit.append hlt).mono (Nat.zero_le room)
  | case6 => cases hread
  | case7 room sides text hempty hcolon isHex digits group rest hbehind hnumber hrest ih =>
      have hlt : ∀ other ∈ [group], other < 65536 := by simpa using group_lt hnumber
      exact ih (hfit.append hlt) hread
  | case8 => cases hread
  | case9 room sides text hempty hcolon isHex digits value behind hbehind hnumber hroom =>
      obtain ⟨groups, hgroups, rfl⟩ := Option.map_eq_some_iff.mp hread
      obtain ⟨htwo, hsmall⟩ := embedded_fits hgroups
      have hpair : sides.Fit (0 + groups.length) := hfit.mono (by omega)
      exact hpair.append hsmall
  | case10 => cases hread

/-- Sides that fit make up an address that does. -/
theorem fits_of_sides {sides : Sides} (hfit : sides.Fit 0)
    (hgroups : sides.toGroups? = some groups) : Fits ⟨groups⟩ := by
  obtain ⟨hroom, hfront, hback⟩ := hfit
  unfold Sides.toGroups? at hgroups
  cases hsides : sides.back with
  | none =>
      rw [hsides] at hgroups
      dsimp only at hgroups
      split at hgroups
      · next height =>
          obtain rfl := Option.some.inj hgroups
          exact ⟨height, hfront⟩
      · cases hgroups
  | some back =>
      rw [hsides] at hgroups hroom hback
      obtain rfl := Option.some.inj hgroups
      refine ⟨?_, ?_⟩
      · simp at hroom ⊢
        omega
      · refine List.forall_mem_append.mpr ⟨List.forall_mem_append.mpr ⟨hfront, ?_⟩, hback⟩
        intro group hmem
        rw [List.eq_of_mem_replicate hmem]
        decide

/-- An address that is read has eight groups of 16 bits. -/
theorem fits_of_parse {text : List Char} {address : Ipv6} (hparse : parse text = .ok address) :
    address.Fits := by
  rw [parse_eq] at hparse
  split at hparse
  · next groups hgroups =>
      obtain rfl := Except.ok.inj hparse
      obtain ⟨sides, hsides, hgroups⟩ := Option.bind_eq_some_iff.mp hgroups
      refine fits_of_sides ?_ hgroups
      have hread : ∀ {room : Nat} {start : Sides} {text : List Char}, start.Fit room →
          readGroups room start text = some sides → sides.Fit 0 := fun hfit => fit_of_read hfit
      unfold readSides at hsides
      split at hsides
      · exact hread ⟨by decide, by decide, List.forall_mem_nil _⟩ hsides
      · cases hsides
      · exact hread ⟨by decide, List.forall_mem_nil _, List.forall_mem_nil _⟩ hsides
  · cases hparse

/-- The written form of an address consists of hexadecimal digits and colons. -/
theorem of_mem_to_text {address : Ipv6} {c : Char} (hmem : c ∈ address.toText) :
    c = ':' ∨ ∃ value < 16, c = Nat.digitChar value := by
  have hgroups : ∀ groups, c ∈ groupsText groups → c = ':' ∨ ∃ value < 16, c = Nat.digitChar value := by
    intro groups hmem
    rcases of_mem_intercalate hmem with hcolon | ⟨part, hpart, hc⟩
    · exact .inl hcolon
    · obtain ⟨group, _, rfl⟩ := List.mem_map.mp hpart
      exact .inr (Text.exists_of_mem_to_digits (by decide) hc)
  unfold toText at hmem
  dsimp only at hmem
  split at hmem
  · rcases List.mem_append.mp hmem with hfront | hback
    · rcases List.mem_append.mp hfront with hfront | hgap
      · exact hgroups _ hfront
      · exact .inl (by simpa using hgap)
    · exact hgroups _ hback
  · exact hgroups _ hmem

end PodcastLedger.Web.Ipv6
