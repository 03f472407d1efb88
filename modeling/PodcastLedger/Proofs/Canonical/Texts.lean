import Mathlib.Data.List.DropRight
import Mathlib.Data.List.Forall2
import Mathlib.Data.List.TakeWhile
import PodcastLedger.Text.Blank

/-!
# Parts of texts

What splitting and joining make of the characters of a text, when every part of a text can be read
(`map_m_eq_some_iff`), and what trimming leaves of a text that is put together (`trim_by_append`,
`trim_by_padded`).
-/

namespace PodcastLedger

variable {First Second : Type}

/-- What is decided of each item of a list holds of all. Quantifiers over characters are not left to
`decide`, which might go through all characters there are. -/
theorem forall_mem_of_all {Item : Type} {items : List Item} {p : Item → Prop} [DecidablePred p]
    (hall : (items.all fun item => decide (p item)) = true) : ∀ item ∈ items, p item :=
  fun item hmem => of_decide_eq_true (List.all_eq_true.mp hall item hmem)

/-- What is decided of the item that there may be holds of it. -/
theorem forall_mem_of_option {Item : Type} {item? : Option Item} {p : Item → Prop} [DecidablePred p]
    (hall : (item?.all fun item => decide (p item)) = true) : ∀ item ∈ item?, p item := by
  rintro item rfl
  exact of_decide_eq_true hall

/-- What is decided of each ASCII character holds of all of them. -/
theorem of_ascii_of_all {p : Char → Prop} [DecidablePred p]
    (hall : ((List.range 0x80).all fun code => decide (p (Char.ofNat code))) = true) {c : Char}
    (hascii : c.toNat < 0x80) : p c := by
  rw [← Char.ofNat_toNat c]
  exact forall_mem_of_all hall c.toNat (List.mem_range.mpr hascii)

/-- All items are read exactly if each of them is. -/
theorem map_m_eq_some_iff {read : First → Option Second} {items : List First}
    {results : List Second} :
    items.mapM read = some results ↔
      List.Forall₂ (fun item result => read item = some result) items results := by
  induction items generalizing results with
  | nil =>
      rw [List.forall₂_nil_left_iff]
      simp [eq_comm]
  | cons item rest ih =>
      rw [List.mapM_cons, List.forall₂_cons_left_iff]
      constructor
      · intro h
        obtain ⟨result, hresult, h⟩ := Option.bind_eq_some_iff.mp h
        obtain ⟨results, hrest, h⟩ := Option.bind_eq_some_iff.mp h
        obtain rfl := Option.some.inj h
        exact ⟨result, results, hresult, ih.mp hrest, rfl⟩
      · rintro ⟨result, results, hresult, hrest, rfl⟩
        rw [hresult, ih.mpr hrest]
        rfl

/-- Every result is read from an item. -/
theorem exists_of_mem_results {read : First → Option Second} {items : List First}
    {results : List Second} (hread : items.mapM read = some results) {result : Second}
    (hmem : result ∈ results) : ∃ item ∈ items, read item = some result := by
  have hall := map_m_eq_some_iff.mp hread
  clear hread
  induction hall with
  | nil => cases hmem
  | cons hfirst hrest ih =>
      rcases List.mem_cons.mp hmem with rfl | hmem
      · exact ⟨_, List.mem_cons_self, hfirst⟩
      · obtain ⟨item, hitem, hresult⟩ := ih hmem
        exact ⟨item, List.mem_cons_of_mem _ hitem, hresult⟩

/-- A joined text consists of separators and the characters of its parts. -/
theorem of_mem_intercalate {Item : Type} {separator item : Item} {parts : List (List Item)}
    (hmem : item ∈ [separator].intercalate parts) :
    item = separator ∨ ∃ part ∈ parts, item ∈ part := by
  induction parts with
  | nil => cases hmem
  | cons part rest ih =>
      cases rest with
      | nil =>
          rw [List.intercalate_singleton] at hmem
          exact .inr ⟨part, List.mem_cons_self, hmem⟩
      | cons next rest =>
          rw [List.intercalate_cons_cons, List.append_assoc, List.singleton_append] at hmem
          rcases List.mem_append.mp hmem with hpart | hrest
          · exact .inr ⟨part, List.mem_cons_self, hpart⟩
          · rcases List.mem_cons.mp hrest with rfl | hrest
            · exact .inl rfl
            · rcases ih hrest with rfl | ⟨other, hother, hitem⟩
              · exact .inl rfl
              · exact .inr ⟨other, List.mem_cons_of_mem _ hother, hitem⟩

/-- The parts of a text that is split consist of its characters. -/
theorem mem_of_mem_split_on {Item : Type} {p : Item → Bool} {part text : List Item}
    (hmem : part ∈ text.splitOnP p) : ∀ item ∈ part, item ∈ text := by
  induction text generalizing part with
  | nil =>
      obtain rfl : part = [] := by simpa using hmem
      exact List.forall_mem_nil _
  | cons first rest ih =>
      rw [List.splitOnP_cons_eq_if_modifyHead] at hmem
      split at hmem
      · rcases List.mem_cons.mp hmem with rfl | hrest
        · exact List.forall_mem_nil _
        · exact fun item hitem => List.mem_cons_of_mem _ (ih hrest item hitem)
      · cases hsplit : rest.splitOnP p with
        | nil => exact absurd hsplit (List.splitOnP_ne_nil p rest)
        | cons head tail =>
            rw [hsplit] at hmem ih
            rcases List.mem_cons.mp hmem with rfl | htail
            · refine List.forall_mem_cons.mpr ⟨List.mem_cons_self, fun item hitem => ?_⟩
              exact List.mem_cons_of_mem _ (ih List.mem_cons_self item hitem)
            · exact fun item hitem =>
                List.mem_cons_of_mem _ (ih (List.mem_cons_of_mem _ htail) item hitem)

/-- No part of a text that is split has a character at which it was split. -/
theorem not_of_mem_split_on {Item : Type} {p : Item → Bool} {part text : List Item}
    (hmem : part ∈ text.splitOnP p) : ∀ item ∈ part, p item = false := by
  induction text generalizing part with
  | nil =>
      obtain rfl : part = [] := by simpa using hmem
      exact List.forall_mem_nil _
  | cons first rest ih =>
      rw [List.splitOnP_cons_eq_if_modifyHead] at hmem
      split at hmem
      · rcases List.mem_cons.mp hmem with rfl | hrest
        · exact List.forall_mem_nil _
        · exact ih hrest
      · next hfirst =>
          cases hsplit : rest.splitOnP p with
          | nil => exact absurd hsplit (List.splitOnP_ne_nil p rest)
          | cons head tail =>
              rw [hsplit] at hmem ih
              rcases List.mem_cons.mp hmem with rfl | htail
              · exact List.forall_mem_cons.mpr
                  ⟨by simpa using hfirst, ih List.mem_cons_self⟩
              · exact ih (List.mem_cons_of_mem _ htail)

/-- What stands behind the last separator of a text is found from its end. -/
theorem behind_last {separator : Char} (front : List Char) {back : List Char}
    (hback : separator ∉ back) :
    ((front ++ separator :: back).reverse.takeWhile (· != separator)).reverse = back := by
  have hall : ∀ c ∈ back.reverse, (c != separator) = true := by
    intro c hmem
    refine bne_iff_ne.mpr ?_
    rintro rfl
    exact hback (List.mem_reverse.mp hmem)
  rw [List.reverse_append, List.reverse_cons, List.append_assoc, List.takeWhile_append_of_pos hall]
  simp

/-- Without separators the whole text is found. -/
theorem behind_none {separator : Char} {text : List Char} (hnone : separator ∉ text) :
    (text.reverse.takeWhile (· != separator)).reverse = text := by
  have hall : ∀ c ∈ text.reverse, (c != separator) = true := by
    intro c hmem
    refine bne_iff_ne.mpr ?_
    rintro rfl
    exact hnone (List.mem_reverse.mp hmem)
  rw [List.takeWhile_eq_self_iff.mpr hall, List.reverse_reverse]

/-- A text whose ends are not dropped is trimmed already. -/
theorem trim_by_of_ends {drop : Char → Bool} {text : List Char}
    (hfirst : ∀ c ∈ text.head?, drop c = false) (hlast : ∀ c ∈ text.getLast?, drop c = false) :
    Text.trimBy drop text = text := by
  have hkept : ∀ {text : List Char}, (∀ c ∈ text.head?, drop c = false) →
      text.dropWhile drop = text := by
    intro text hhead
    cases text with
    | nil => rfl
    | cons c rest => rw [List.dropWhile_cons_of_neg (by rw [hhead c rfl]; exact Bool.false_ne_true)]
  unfold Text.trimBy
  rw [hkept hfirst, hkept, List.reverse_reverse]
  rw [List.head?_reverse]
  exact hlast

variable {Item : Type} {drop : Item → Bool} {front back : List Item}

/-- The last item behind the dropped ones is the last one of all. -/
theorem mem_last_of_drop {item : Item} (hmem : item ∈ (front.dropWhile drop).getLast?) :
    item ∈ front.getLast? := by
  rw [← List.takeWhile_append_dropWhile (p := drop) (l := front), List.getLast?_append]
  exact Option.mem_def.mpr (by rw [Option.mem_def.mp hmem, Option.some_or])

/-- What is dropped at the end of a text does not reach beyond an item that is kept. -/
theorem rdrop_while_append (hlast : ∀ item ∈ front.getLast?, drop item = false) :
    (front ++ back).rdropWhile drop = front ++ back.rdropWhile drop := by
  induction back using List.reverseRecOn with
  | nil =>
      rw [List.append_nil, List.rdropWhile_nil, List.append_nil, List.rdropWhile_eq_self_iff]
      intro hne
      rw [hlast _ (List.getLast_mem_getLast? hne)]
      exact Bool.false_ne_true
  | append_singleton back item ih =>
      rw [← List.append_assoc]
      by_cases hdrop : drop item = true
      · rw [List.rdropWhile_concat_pos _ _ _ hdrop, List.rdropWhile_concat_pos _ _ _ hdrop, ih]
      · rw [List.rdropWhile_concat_neg _ _ _ hdrop, List.rdropWhile_concat_neg _ _ _ hdrop,
          List.append_assoc]

/-- An item that is kept stays in front of what is dropped at the end. -/
theorem rdrop_while_cons {item : Item} (hkept : drop item = false) (back : List Item) :
    (item :: back).rdropWhile drop = item :: back.rdropWhile drop := by
  change ([item] ++ back).rdropWhile drop = [item] ++ back.rdropWhile drop
  refine rdrop_while_append fun other hother => ?_
  obtain rfl := Option.some.inj hother
  exact hkept

/-- A text is trimmed at its two ends alone. -/
theorem trim_by_append {drop : Char → Bool} {front back : List Char}
    (hlast : ∀ c ∈ front.getLast?, drop c = false) (hfirst : ∀ c ∈ back.head?, drop c = false) :
    Text.trimBy drop (front ++ back) = front.dropWhile drop ++ back.rdropWhile drop := by
  have hfront : (front ++ back).dropWhile drop = front.dropWhile drop ++ back := by
    rw [List.dropWhile_append]
    split
    · next hempty =>
        rw [List.isEmpty_iff.mp hempty, List.nil_append]
        cases back with
        | nil => rfl
        | cons c rest =>
            exact List.dropWhile_cons_of_neg (by rw [hfirst c rfl]; exact Bool.false_ne_true)
    · rfl
  change ((front ++ back).dropWhile drop).rdropWhile drop = _
  rw [hfront, rdrop_while_append fun c hmem => hlast c (mem_last_of_drop hmem)]

/-- A text whose end is not dropped is trimmed at its beginning alone. -/
theorem trim_by_of_last {drop : Char → Bool} {text : List Char}
    (hlast : ∀ c ∈ text.getLast?, drop c = false) : Text.trimBy drop text = text.dropWhile drop := by
  have htrim := trim_by_append hlast (nofun : ∀ c ∈ ([] : List Char).head?, drop c = false)
  rwa [List.append_nil, List.rdropWhile_nil, List.append_nil] at htrim

/-- What is dropped around a text does not count. -/
theorem trim_by_padded {drop : Char → Bool} {before text behind : List Char}
    (hbefore : ∀ c ∈ before, drop c = true) (hbehind : ∀ c ∈ behind, drop c = true) :
    Text.trimBy drop (before ++ text ++ behind) = Text.trimBy drop text := by
  unfold Text.trimBy
  rw [List.append_assoc, List.dropWhile_append_of_pos hbefore, List.dropWhile_append]
  split
  · next hempty =>
      rw [List.isEmpty_iff.mp hempty, List.dropWhile_eq_nil_iff.mpr hbehind]
  · rw [List.reverse_append,
      List.dropWhile_append_of_pos fun c hmem => hbehind c (List.mem_reverse.mp hmem)]

end PodcastLedger
