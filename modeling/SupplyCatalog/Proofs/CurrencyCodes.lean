import Mathlib.Data.List.Nodup
import SupplyCatalog.Proofs.FieldRule

/-!
# The codes of a currency table

A table lists every code that is configured, in capitals and without blanks around it, once and
where it first occurs. What stands in a table is in this form already, so a table that is made of
the codes of another one is that table again. A list with something else than three letters in it is
refused for the first of them, and only then for having nothing in it or for its default.
-/

namespace SupplyCatalog

/-! ## Codes -/

namespace Text

theorem upper_char_again (c : Char) : upperChar (upperChar c) = upperChar c := by
  by_cases small : 'a' ≤ c ∧ c ≤ 'z'
  · have code : (upperChar c).toNat = c.toNat - 32 := by
      have bounds := (between_iff _ _ c).1 small
      rw [upperChar, if_pos small, Char.ofNat, dif_pos]
      · rfl
      · exact .inl (lt_of_le_of_lt (Nat.sub_le_sub_right bounds.2 32) (by decide))
    have capital : ¬('a' ≤ upperChar c ∧ upperChar c ≤ 'z') := by
      rw [between_iff] at small ⊢
      simp at small ⊢
      omega
    rw [upperChar, if_neg capital]
  · have same : upperChar c = c := if_neg small
    rw [same, same]

theorem upper_upper (text : String) : upper (upper text) = upper text := by
  have again : upperChar ∘ upperChar = upperChar := funext upper_char_again
  rw [upper, upper, String.toList_ofList, List.map_map, again]

theorem letter_is_not_blank {c : Char} (letter : isLetter c = true) : isBlank c = false := by
  have bounds := (is_letter_iff c).1 letter
  simp [isBlank]
  omega

end Text

namespace Currency

def IsThreeLetters (text : String) : Prop :=
  ∃ first second third : Char, text = String.ofList [first, second, third] ∧
    ∀ c ∈ [first, second, third], ('A' ≤ c ∧ c ≤ 'Z') ∨ ('a' ≤ c ∧ c ≤ 'z')

theorem is_code_iff (text : String) : isCode text = true ↔ IsThreeLetters text := by
  have letter (c : Char) :
      Text.isLetter c = true ↔ ('A' ≤ c ∧ c ≤ 'Z') ∨ ('a' ≤ c ∧ c ≤ 'z') := by
    simp [Text.isLetter]
  simp only [isCode, Bool.and_eq_true, beq_iff_eq, List.all_eq_true, letter]
  constructor
  · rintro ⟨three, letters⟩
    obtain ⟨first, second, third, chars⟩ := List.length_eq_three.1 three
    rw [chars] at letters
    exact ⟨first, second, third, by rw [← chars, String.ofList_toList], letters⟩
  · rintro ⟨first, second, third, rfl, letters⟩
    rw [String.toList_ofList]
    exact ⟨rfl, letters⟩

/-- A code in the form in which it is kept is in that form. -/
theorem canonical_again {written : String} (letters : IsThreeLetters (canonical written)) :
    canonical (canonical written) = canonical written := by
  have clean : ∀ c ∈ (canonical written).toList, Text.isBlank c = false := by
    have code := (is_code_iff _).2 letters
    rw [isCode, Bool.and_eq_true, List.all_eq_true] at code
    intro c member
    exact Text.letter_is_not_blank (code.2 c member)
  have trimmed : Text.trim (canonical written) = canonical written :=
    (Text.is_trimmed_of_no_blank clean).trim_eq
  have upper : Text.upper (canonical written) = canonical written := Text.upper_upper _
  calc
    canonical (canonical written) = Text.upper (Text.trim (canonical written)) := rfl
    _ = canonical written := by rw [trimmed, upper]

end Currency

namespace CurrencyTable

/-! ## Codes that are collected -/

/-- The same codes, each once, in the order in which they first occur. -/
structure ListsOnce (listed all : List String) : Prop where
  mem_iff : ∀ code, code ∈ listed ↔ code ∈ all
  in_order : listed.Pairwise fun first second => all.idxOf first < all.idxOf second

theorem lists_once_nothing : ListsOnce [] [] :=
  ⟨fun _ => Iff.rfl, .nil⟩

theorem ListsOnce.nodup {listed all : List String} (once : ListsOnce listed all) : listed.Nodup :=
  once.in_order.imp fun order same => Nat.ne_of_lt order (congrArg all.idxOf same)

/-- There is one such list. -/
theorem ListsOnce.unique {left right all : List String} (first : ListsOnce left all)
    (second : ListsOnce right all) : left = right := by
  have members : ∀ code, code ∈ left ↔ code ∈ right := fun code =>
    (first.mem_iff code).trans (second.mem_iff code).symm
  have arranged : left.Perm right :=
    (List.perm_ext_iff_of_nodup first.nodup second.nodup).2 members
  exact arranged.eq_of_pairwise
    (fun _ _ _ _ before after => absurd before (Nat.lt_asymm after)) first.in_order second.in_order

theorem lists_once_self {listed : List String} (once : listed.Nodup) : ListsOnce listed listed where
  mem_iff _ := Iff.rfl
  in_order := by
    rw [List.pairwise_iff_getElem]
    intro i j _ _ before
    rwa [once.idxOf_getElem, once.idxOf_getElem]

theorem ListsOnce.next {listed all : List String} (once : ListsOnce listed all) (code : String) :
    ListsOnce (if listed.contains code then listed else listed ++ [code]) (all ++ [code]) := by
  have earlier : listed.Pairwise fun first second =>
      (all ++ [code]).idxOf first < (all ++ [code]).idxOf second := by
    apply once.in_order.imp_of_mem
    intro first second firstMember secondMember order
    rwa [List.idxOf_append_of_mem ((once.mem_iff first).1 firstMember),
      List.idxOf_append_of_mem ((once.mem_iff second).1 secondMember)]
  by_cases known : code ∈ listed
  · rw [if_pos (List.contains_iff_mem.2 known)]
    refine ⟨fun other => ?_, earlier⟩
    have there : code ∈ all := (once.mem_iff code).1 known
    rw [once.mem_iff, List.mem_append, List.mem_singleton]
    refine ⟨.inl, ?_⟩
    rintro (member | same)
    · exact member
    · exact same ▸ there
  · rw [if_neg (by rwa [List.contains_iff_mem])]
    refine ⟨fun other => by rw [List.mem_append, List.mem_append, once.mem_iff], ?_⟩
    rw [List.pairwise_append]
    refine ⟨earlier, List.pairwise_singleton _ _, ?_⟩
    intro first member last isLast
    have before : first ∈ all := (once.mem_iff first).1 member
    have new : code ∉ all := fun there => known ((once.mem_iff code).2 there)
    rw [List.mem_singleton.1 isLast, List.idxOf_append_of_mem before,
      List.idxOf_append_of_notMem new]
    exact Nat.lt_add_right _ (List.idxOf_lt_length_of_mem before)

theorem collect_of_codes {codes : List String}
    (areCodes : ∀ written ∈ codes, Currency.IsThreeLetters (Currency.canonical written))
    {kept all : List String} (once : ListsOnce kept all) :
    ∃ listed, collect kept codes = .ok listed ∧
      ListsOnce listed (all ++ codes.map Currency.canonical) := by
  induction codes generalizing kept all with
  | nil => exact ⟨kept, rfl, by simpa using once⟩
  | cons written rest induction =>
      have isCode : Currency.isCode (Currency.canonical written) = true :=
        (Currency.is_code_iff _).2 (areCodes written List.mem_cons_self)
      obtain ⟨listed, collected, later⟩ := induction
        (fun other member => areCodes other (List.mem_cons_of_mem written member))
        (once.next (Currency.canonical written))
      refine ⟨listed, ?_, ?_⟩
      · rw [collect]
        simp only [isCode, if_true]
        exact collected
      · rwa [List.append_assoc] at later

theorem collect_of_wrong {before after : List String} {written : String}
    (earlier : ∀ other ∈ before, Currency.IsThreeLetters (Currency.canonical other))
    (wrong : ¬Currency.IsThreeLetters (Currency.canonical written)) (kept : List String) :
    collect kept (before ++ written :: after) =
      .error (.notACode (Currency.canonical written)) := by
  induction before generalizing kept with
  | nil =>
      have notCode : ¬Currency.isCode (Currency.canonical written) = true := by
        rwa [Currency.is_code_iff]
      rw [List.nil_append, collect]
      simp only [notCode, Bool.false_eq_true, if_false]
  | cons first rest induction =>
      have isCode : Currency.isCode (Currency.canonical first) = true :=
        (Currency.is_code_iff _).2 (earlier first List.mem_cons_self)
      rw [List.cons_append, collect]
      simp only [isCode, if_true]
      exact induction (fun other member => earlier other (List.mem_cons_of_mem first member)) _

/-! ## Tables -/

/-- What is asked of the codes and the default of a table. -/
structure Admits (codes : List String) (chosen : String) : Prop where
  some : codes ≠ []
  areCodes : ∀ written ∈ codes, Currency.IsThreeLetters (Currency.canonical written)
  default_listed : Currency.canonical chosen ∈ codes.map Currency.canonical

structure IsMadeOf (table : CurrencyTable) (codes : List String) (chosen : String) : Prop where
  codes : ListsOnce table.codes (codes.map Currency.canonical)
  nodup : table.codes.Nodup
  default : table.defaultCode = Currency.canonical chosen
  default_listed : table.defaultCode ∈ table.codes
  shown : table.choices.map (·.code) = table.codes
  rebuilt : ofCodes table.codes table.defaultCode = .ok table

/-- Why no table can be made of the codes and the default. -/
inductive Refuses (codes : List String) (chosen : String) : CurrencyTableError → Prop
  | notACode {before after : List String} {written : String}
      (split : codes = before ++ written :: after)
      (earlier : ∀ other ∈ before, Currency.IsThreeLetters (Currency.canonical other))
      (wrong : ¬Currency.IsThreeLetters (Currency.canonical written)) :
      Refuses codes chosen (.notACode (Currency.canonical written))
  | noCodes (none : codes = []) : Refuses codes chosen .noCodes
  | defaultNotListed (some : codes ≠ [])
      (areCodes : ∀ written ∈ codes, Currency.IsThreeLetters (Currency.canonical written))
      (unlisted : Currency.canonical chosen ∉ codes.map Currency.canonical) :
      Refuses codes chosen (.defaultNotListed (Currency.canonical chosen))

variable {codes : List String} {chosen : String}

theorem choices_codes (table : CurrencyTable) : table.choices.map (·.code) = table.codes := by
  rw [choices, List.map_map]
  exact List.map_id _

/-- The codes and the default are in their kept form, so that they are admitted as they are. -/
theorem admits_listed {listed : List String} (admits : Admits codes chosen)
    (once : ListsOnce listed (codes.map Currency.canonical)) :
    listed.map Currency.canonical = listed ∧
      Currency.canonical (Currency.canonical chosen) = Currency.canonical chosen ∧
      ∀ code ∈ listed, Currency.IsThreeLetters (Currency.canonical code) := by
  have again : ∀ code ∈ codes.map Currency.canonical, Currency.canonical code = code ∧
      Currency.IsThreeLetters (Currency.canonical code) := by
    intro code member
    obtain ⟨written, configured, rfl⟩ := List.mem_map.1 member
    have letters := admits.areCodes written configured
    have same := Currency.canonical_again letters
    exact ⟨same, same.symm ▸ letters⟩
  refine ⟨?_, (again _ admits.default_listed).1, ?_⟩
  · conv_rhs => rw [← List.map_id listed]
    exact List.map_congr_left fun code member => (again code ((once.mem_iff code).1 member)).1
  · intro code member
    exact (again code ((once.mem_iff code).1 member)).2

theorem of_codes_of_admitted (admits : Admits codes chosen) :
    ∃ listed, ListsOnce listed (codes.map Currency.canonical) ∧
      ofCodes codes chosen = .ok ⟨listed, Currency.canonical chosen⟩ := by
  obtain ⟨listed, collected, once⟩ := collect_of_codes admits.areCodes lists_once_nothing
  have default : Currency.canonical chosen ∈ listed := (once.mem_iff _).2 admits.default_listed
  have filled : listed.isEmpty = false :=
    List.isEmpty_eq_false_iff_exists_mem.2 ⟨_, default⟩
  refine ⟨listed, once, ?_⟩
  unfold ofCodes
  rw [bind_of_ok collected, filled]
  exact if_pos (List.contains_iff_mem.2 default)

theorem of_codes_of_refused {error : CurrencyTableError} (refuses : Refuses codes chosen error) :
    ofCodes codes chosen = .error error := by
  cases refuses with
  | notACode split earlier wrong =>
      unfold ofCodes
      rw [split, collect_of_wrong earlier wrong]
      rfl
  | noCodes none =>
      rw [none]
      rfl
  | defaultNotListed some areCodes unlisted =>
      obtain ⟨listed, collected, once⟩ := collect_of_codes areCodes lists_once_nothing
      obtain ⟨written, configured⟩ := List.exists_mem_of_ne_nil codes some
      have first : Currency.canonical written ∈ listed :=
        (once.mem_iff _).2 (List.mem_map_of_mem configured)
      have filled : listed.isEmpty = false :=
        List.isEmpty_eq_false_iff_exists_mem.2 ⟨_, first⟩
      have default : ¬listed.contains (Currency.canonical chosen) = true := by
        rw [List.contains_iff_mem, once.mem_iff]
        exact unlisted
      unfold ofCodes
      rw [bind_of_ok collected, filled]
      exact if_neg default

/-- The first code that is none comes before everything else that may be wrong. -/
theorem admits_or_refuses (codes : List String) (chosen : String) :
    Admits codes chosen ∨ ∃ error, Refuses codes chosen error := by
  cases wrong : codes.find? fun written => !Currency.isCode (Currency.canonical written) with
  | some written =>
      obtain ⟨notCode, before, after, split, earlier⟩ := List.find?_eq_some_iff_append.1 wrong
      refine .inr ⟨_, .notACode split ?_ ?_⟩
      · intro other member
        rw [← Currency.is_code_iff]
        simpa using earlier other member
      · rw [← Currency.is_code_iff]
        simpa using notCode
  | none =>
      have areCodes : ∀ written ∈ codes, Currency.IsThreeLetters (Currency.canonical written) := by
        intro written member
        rw [← Currency.is_code_iff]
        simpa using List.find?_eq_none.1 wrong written member
      by_cases some : codes = []
      · exact .inr ⟨_, .noCodes some⟩
      by_cases default : Currency.canonical chosen ∈ codes.map Currency.canonical
      · exact .inl ⟨some, areCodes, default⟩
      · exact .inr ⟨_, .defaultNotListed some areCodes default⟩

theorem Admits.made {listed : List String} (admits : Admits codes chosen)
    (once : ListsOnce listed (codes.map Currency.canonical)) :
    IsMadeOf ⟨listed, Currency.canonical chosen⟩ codes chosen where
  codes := once
  nodup := once.nodup
  default := rfl
  default_listed := (once.mem_iff _).2 admits.default_listed
  shown := choices_codes _
  rebuilt := by
    obtain ⟨sameCodes, sameDefault, letters⟩ := admits_listed admits once
    have default : Currency.canonical chosen ∈ listed := (once.mem_iff _).2 admits.default_listed
    have again : Admits listed (Currency.canonical chosen) := by
      refine ⟨List.ne_nil_of_mem default, letters, ?_⟩
      rwa [sameCodes, sameDefault]
    obtain ⟨relisted, reonce, rebuilt⟩ := of_codes_of_admitted again
    rw [sameCodes] at reonce
    rw [rebuilt, sameDefault, reonce.unique (lists_once_self once.nodup)]

theorem validate_eq_ok_iff (table : CurrencyTable) (text accepted : String) :
    table.validate text = .ok accepted ↔ text ∈ table.codes ∧ accepted = text := by
  unfold validate contains
  by_cases listed : text ∈ table.codes
  · rw [if_pos (List.contains_iff_mem.2 listed), Except.ok.injEq, eq_comm]
    exact (and_iff_right listed).symm
  · rw [if_neg (by rwa [List.contains_iff_mem])]
    exact iff_of_false (by rintro ⟨⟩) fun both => listed both.1

/-- Whether there is a table, which one it is, and if there is none, why: all of it is decided by
the codes in the form in which they are kept. What a table shows, and nothing else, is accepted. -/
theorem tables_are_canonical (codes : List String) (chosen : String) :
    ((∃ table, ofCodes codes chosen = .ok table) ↔ Admits codes chosen) ∧
    (∀ table, ofCodes codes chosen = .ok table → table.IsMadeOf codes chosen) ∧
    (∀ error, ofCodes codes chosen = .error error ↔ Refuses codes chosen error) ∧
    ∀ (table : CurrencyTable) (text accepted : String), table.validate text = .ok accepted ↔
      text ∈ table.choices.map (·.code) ∧ accepted = text := by
  have accepts : ∀ (table : CurrencyTable) (text accepted : String),
      table.validate text = .ok accepted ↔ text ∈ table.choices.map (·.code) ∧ accepted = text := by
    intro table text accepted
    rw [choices_codes, validate_eq_ok_iff]
  rcases admits_or_refuses codes chosen with admits | ⟨cause, refuses⟩
  · obtain ⟨listed, once, made⟩ := of_codes_of_admitted admits
    refine ⟨iff_of_true ⟨_, made⟩ admits, ?_, ?_, accepts⟩
    · intro table same
      obtain rfl := Except.ok.inj (made.symm.trans same)
      exact admits.made once
    · intro error
      refine ⟨fun failed => ?_, of_codes_of_refused⟩
      cases made.symm.trans failed
  · have failed := of_codes_of_refused refuses
    refine ⟨⟨?_, ?_⟩, ?_, ?_, accepts⟩
    · rintro ⟨table, made⟩
      cases failed.symm.trans made
    · intro admits
      obtain ⟨listed, _, made⟩ := of_codes_of_admitted admits
      cases failed.symm.trans made
    · intro table made
      cases failed.symm.trans made
    · intro error
      refine ⟨fun same => ?_, of_codes_of_refused⟩
      rwa [← Except.error.inj (failed.symm.trans same)]

example : ofCodes [" usd", "eur", "USD"] "eur" = .ok ⟨["USD", "EUR"], "EUR"⟩ := by decide +kernel

end CurrencyTable

end SupplyCatalog
