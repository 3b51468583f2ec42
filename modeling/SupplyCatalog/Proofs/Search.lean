import Mathlib.Data.List.TakeWhile
import SupplyCatalog.Proofs.Listing

/-!
# Searching companies

A search text is put between two percent signs and taken for a pattern, so that percent signs and
underscores in it stand for other characters, and a NUL ends it. What is found are the companies
that contain the text, exactly if there are no such characters in it.
-/

namespace SupplyCatalog

namespace Text

/-! ## Patterns -/

theorem mem_suffixes {α : Type} (rest chars : List α) :
    rest ∈ suffixes chars ↔ rest <:+ chars := by
  induction chars with
  | nil => simp [suffixes]
  | cons c chars induction => rw [suffixes, List.mem_cons, induction, List.suffix_cons_iff]

theorem matches_many_iff (pattern chars : List Char) :
    matchesChars (manyMark :: pattern) chars = true ↔
      ∃ rest, rest <:+ chars ∧ matchesChars pattern rest = true := by
  rw [matchesChars.eq_def]
  simp only [if_true, List.any_eq_true, mem_suffixes]

theorem matches_one_iff {mark : Char} (single : mark ≠ manyMark) (pattern chars : List Char) :
    matchesChars (mark :: pattern) chars = true ↔
      ∃ c rest, chars = c :: rest ∧ matchesChar mark c = true ∧
        matchesChars pattern rest = true := by
  rw [matchesChars.eq_def]
  cases chars with
  | nil => simp [single]
  | cons c rest => simp [single]

/-- A pattern in two parts matches a text in two parts. -/
theorem matches_append_iff (first second chars : List Char) :
    matchesChars (first ++ second) chars = true ↔
      ∃ left right, chars = left ++ right ∧ matchesChars first left = true ∧
        matchesChars second right = true := by
  induction first generalizing chars with
  | nil => simp [matchesChars]
  | cons mark pattern induction =>
      rw [List.cons_append]
      by_cases many : mark = manyMark
      · subst many
        simp only [matches_many_iff, induction]
        constructor
        · rintro ⟨rest, ⟨skipped, rfl⟩, left, right, rfl, begins, ends⟩
          exact ⟨skipped ++ left, right, (List.append_assoc ..).symm,
            ⟨left, List.suffix_append _ _, begins⟩, ends⟩
        · rintro ⟨_, right, rfl, ⟨left, ⟨skipped, rfl⟩, begins⟩, ends⟩
          exact ⟨left ++ right, ⟨skipped, (List.append_assoc ..).symm⟩, left, right, rfl, begins,
            ends⟩
      · simp only [matches_one_iff many, induction]
        constructor
        · rintro ⟨c, _, rfl, here, left, right, rfl, begins, ends⟩
          exact ⟨c :: left, right, rfl, ⟨c, left, rfl, here, begins⟩, ends⟩
        · rintro ⟨_, right, rfl, ⟨c, left, rfl, here, begins⟩, ends⟩
          exact ⟨c, left ++ right, rfl, here, left, right, rfl, begins, ends⟩

/-- A pattern between two percent signs is looked for anywhere in a text. -/
theorem matches_within_iff (pattern chars : List Char) :
    matchesChars (manyMark :: (pattern ++ [manyMark])) chars = true ↔
      ∃ run, run <:+: chars ∧ matchesChars pattern run = true := by
  have anything : ∀ rest, matchesChars [manyMark] rest = true := by
    intro rest
    exact (matches_many_iff [] rest).2 ⟨[], List.nil_suffix, rfl⟩
  simp only [matches_many_iff, matches_append_iff, anything, and_true]
  constructor
  · rintro ⟨_, ⟨skipped, rfl⟩, run, right, rfl, fits⟩
    exact ⟨run, ⟨skipped, right, List.append_assoc ..⟩, fits⟩
  · rintro ⟨run, ⟨skipped, right, rfl⟩, fits⟩
    exact ⟨run ++ right, ⟨skipped, (List.append_assoc ..).symm⟩, run, right, rfl, fits⟩

/-- Without wildcards, a pattern matches its own characters in either case. -/
theorem matches_plain_iff {pattern : List Char}
    (plain : ∀ mark ∈ pattern, mark ≠ manyMark ∧ mark ≠ oneMark) (chars : List Char) :
    matchesChars pattern chars = true ↔ pattern.map lowerChar = chars.map lowerChar := by
  induction pattern generalizing chars with
  | nil =>
      rw [matchesChars, List.isEmpty_iff, List.map_nil, eq_comm (a := []), List.map_eq_nil_iff]
  | cons mark pattern induction =>
      obtain ⟨⟨many, one⟩, rest⟩ := List.forall_mem_cons.1 plain
      rw [matches_one_iff many]
      cases chars with
      | nil => simp
      | cons c chars => simp [induction rest, matchesChar, one]

/-! ## Texts that are compared as they are -/

/-- A comparison sees all characters of the text, each as itself. -/
def IsSeen (text : String) : Prop :=
  ∀ c ∈ text.toList, c ≠ '\x00' ∧ c ≠ '\uFFFE' ∧ c ≠ '\uFFFF'

/-- All characters of the text stand for themselves in a pattern. -/
def IsPlain (text : String) : Prop :=
  IsSeen text ∧ ∀ mark ∈ text.toList, mark ≠ '%' ∧ mark ≠ '_'

/-- The needle is somewhere in the text, with letters of ASCII in either case. -/
def Contains (text needle : String) : Prop :=
  needle.toList.map lowerChar <:+: text.toList.map lowerChar

theorem comparable_eq (c : Char) :
    comparable c = if c = '\uFFFE' ∨ c = '\uFFFF' then '\uFFFD' else c := by
  have first : c.toNat = 0xFFFE ↔ c = '\uFFFE' := Char.toNat_inj (d := '\uFFFE')
  have second : c.toNat = 0xFFFF ↔ c = '\uFFFF' := Char.toNat_inj (d := '\uFFFF')
  simp only [comparable, first, second]

theorem comparable_of_seen {c : Char} (seen : c ≠ '\uFFFE' ∧ c ≠ '\uFFFF') :
    comparable c = c := by
  rw [comparable_eq, if_neg (not_or.2 seen)]

theorem comparable_chars_of_seen {text : String} (seen : IsSeen text) :
    comparableChars text = text.toList := by
  have whole : text.toList.takeWhile (· != '\x00') = text.toList := by
    rw [List.takeWhile_eq_self_iff]
    intro c member
    simpa using (seen c member).1
  rw [comparableChars, whole,
    List.map_congr_left fun c member => comparable_of_seen (seen c member).2, List.map_id']

/-- A needle is looked for as a pattern. -/
theorem is_like_of_seen {needle : String} (seen : IsSeen needle) (text : String) :
    isLike ("%" ++ needle ++ "%") text = true ↔
      ∃ run, run <:+: comparableChars text ∧ matchesChars needle.toList run = true := by
  have around : IsSeen ("%" ++ needle ++ "%") := by
    intro c member
    simp only [String.toList_append, List.mem_append] at member
    rcases member with (first | inside) | last
    · obtain rfl : c = '%' := by simpa using first
      decide
    · exact seen c inside
    · obtain rfl : c = '%' := by simpa using last
      decide
  have pattern : ("%" ++ needle ++ "%").toList = manyMark :: (needle.toList ++ [manyMark]) := by
    simp [manyMark]
  rw [is_like_eq, comparable_chars_of_seen around, pattern, matches_within_iff]

theorem is_like_of_plain {needle text : String} (plain : IsPlain needle) (seen : IsSeen text) :
    isLike ("%" ++ needle ++ "%") text = true ↔ Contains text needle := by
  rw [is_like_of_seen plain.1, comparable_chars_of_seen seen, Contains, List.infix_map_iff]
  simp only [matches_plain_iff plain.2]

/-! ## Texts that are found though they do not contain the needle -/

/-- A text for a pattern, with nothing for a percent sign and a letter for an underscore. -/
def filled : List Char → List Char
  | [] => []
  | mark :: pattern =>
      if mark = manyMark then filled pattern
      else (if mark = oneMark then 'x' else mark) :: filled pattern

theorem matches_filled (pattern : List Char) : matchesChars pattern (filled pattern) = true := by
  induction pattern with
  | nil => rfl
  | cons mark pattern induction =>
      rw [filled]
      split
      · rename_i many
        subst many
        exact (matches_many_iff _ _).2 ⟨_, List.suffix_rfl, induction⟩
      · rename_i single
        refine (matches_one_iff single _ _).2 ⟨_, _, rfl, ?_, induction⟩
        split <;> simp_all [matchesChar]

theorem mem_filled {pattern : List Char} {c : Char} (member : c ∈ filled pattern) :
    c = 'x' ∨ c ∈ pattern ∧ c ≠ manyMark ∧ c ≠ oneMark := by
  induction pattern with
  | nil => cases member
  | cons mark pattern induction =>
      rw [filled] at member
      split at member
      · exact (induction member).imp_right fun inside =>
          ⟨List.mem_cons_of_mem _ inside.1, inside.2⟩
      · rename_i single
        rcases List.mem_cons.1 member with rfl | later
        · split
          · exact .inl rfl
          · rename_i plain
            exact .inr ⟨List.mem_cons_self, single, plain⟩
        · exact (induction later).imp_right fun inside =>
            ⟨List.mem_cons_of_mem _ inside.1, inside.2⟩

/-- A text that is found with the needle. -/
def sample (needle : String) : String := String.ofList (filled (comparableChars needle))

theorem seen_of_comparable {needle : String} {c : Char} (member : c ∈ comparableChars needle) :
    c ≠ '\x00' ∧ c ≠ '\uFFFE' ∧ c ≠ '\uFFFF' := by
  obtain ⟨given, before, rfl⟩ := List.mem_map.1 member
  have some : given ≠ '\x00' := by simpa using List.mem_takeWhile_imp before
  rw [comparable_eq]
  split
  · decide
  · rename_i kept
    exact ⟨some, not_or.1 kept⟩

theorem sample_is_plain (needle : String) : IsPlain (sample needle) := by
  have plain : ∀ c ∈ (sample needle).toList,
      (c ≠ '\x00' ∧ c ≠ '\uFFFE' ∧ c ≠ '\uFFFF') ∧ c ≠ '%' ∧ c ≠ '_' := by
    intro c member
    rw [sample, String.toList_ofList] at member
    rcases mem_filled member with rfl | ⟨inside, single⟩
    · decide
    · exact ⟨seen_of_comparable inside, single⟩
  exact ⟨fun c member => (plain c member).1, fun c member => (plain c member).2⟩

/-- A NUL hides the percent sign behind the needle. -/
theorem comparable_chars_around (needle : String) :
    ∃ rest, comparableChars ("%" ++ needle ++ "%") =
        manyMark :: (comparableChars needle ++ rest) ∧ matchesChars rest [] = true := by
  have first : comparableChars ("%" ++ needle ++ "%") =
      manyMark :: ((needle.toList ++ ['%']).takeWhile (· != '\x00')).map comparable := by
    simp [comparableChars, manyMark, comparable]
  rw [first, List.takeWhile_append]
  split
  · rename_i whole
    refine ⟨[manyMark], ?_, rfl⟩
    have all : needle.toList.takeWhile (· != '\x00') = needle.toList :=
      (List.takeWhile_sublist _).eq_of_length whole
    simp [comparableChars, all, manyMark, comparable]
  · exact ⟨[], by rw [comparableChars, List.append_nil], rfl⟩

theorem is_like_sample (needle : String) :
    isLike ("%" ++ needle ++ "%") (sample needle) = true := by
  obtain ⟨rest, around, empty⟩ := comparable_chars_around needle
  rw [is_like_eq, around, comparable_chars_of_seen (sample_is_plain needle).1, sample,
    String.toList_ofList]
  refine (matches_many_iff _ _).2 ⟨_, List.suffix_rfl, ?_⟩
  rw [matches_append_iff]
  exact ⟨_, [], (List.append_nil _).symm, matches_filled _, empty⟩

theorem eq_of_lower_char {c d : Char} (noLetter : isLetter c = false)
    (same : lowerChar d = lowerChar c) : d = c := by
  simp only [isLetter, Bool.or_eq_false_iff, Bool.and_eq_false_iff, decide_eq_false_iff_not,
    ← not_and_or] at noLetter
  rw [lowerChar, lowerChar, if_neg noLetter.1] at same
  split at same
  · rename_i upper
    rw [between_iff] at upper
    have code : c.toNat = d.toNat + 32 := by
      rw [← same, Char.ofNat, dif_pos]
      · rfl
      · exact .inl (lt_of_le_of_lt (Nat.add_le_add_right upper.2 32) (by decide))
    refine absurd ?_ noLetter.2
    rw [between_iff, code]
    simp at upper ⊢
    omega
  · exact same

/-- What is in a plain text is plain. -/
theorem is_plain_of_contains {text needle : String} (plain : IsPlain text)
    (contains : Contains text needle) : IsPlain needle := by
  have inside : ∀ c ∈ needle.toList, isLetter c = false → c ∈ text.toList := by
    intro c member noLetter
    obtain ⟨d, there, same⟩ :=
      List.mem_map.1 (contains.subset (List.mem_map.2 ⟨c, member, rfl⟩))
    exact eq_of_lower_char noLetter same ▸ there
  refine ⟨fun c member => ⟨?_, ?_, ?_⟩, fun c member => ⟨?_, ?_⟩⟩
  all_goals
    rintro rfl
    have there := inside _ member (by decide)
  · exact (plain.1 _ there).1 rfl
  · exact (plain.1 _ there).2.1 rfl
  · exact (plain.1 _ there).2.2 rfl
  · exact (plain.2 _ there).1 rfl
  · exact (plain.2 _ there).2 rfl

end Text

/-! ## Companies that are found -/

/-- What a query looks for, unless its search text is missing or blank. -/
def CompanyQuery.needle? (query : CompanyQuery) : Option String :=
  (query.search.map Text.trim).filter (· ≠ "")

/-- The company passes the flags and contains what is looked for. -/
def CompanyQuery.Finds (query : CompanyQuery) (row : Company) : Prop :=
  query.Asks row ∧
    ∀ needle ∈ query.needle?, Text.Contains row.name needle ∨ Text.Contains row.description needle

/-- The list holds the companies that contain what is looked for. -/
def Database.SearchesTexts (database : Database) (query : CompanyQuery) : Prop :=
  Lists (.ok (database.listCompanies query)) database.companies database.getCompany query.Finds
    fun a b => Text.utf8Bytes a.name < Text.utf8Bytes b.name

/-- Searching sees all that is written in the names and the descriptions. -/
def Database.HasSeenTexts (database : Database) : Prop :=
  ∀ row ∈ database.companies.rows, Text.IsSeen row.name ∧ Text.IsSeen row.description

namespace CompanyQuery

variable {query : CompanyQuery} {row : Company}

theorem search_pattern_eq (query : CompanyQuery) :
    query.searchPattern? = query.needle?.map fun needle => "%" ++ needle ++ "%" := by
  unfold searchPattern? needle?
  cases query.search.map Text.trim with
  | none => rfl
  | some wanted => by_cases blank : wanted = "" <;> simp [Option.filter, blank]

theorem selects_iff_found (query : CompanyQuery) (row : Company) :
    query.selects row = true ↔ query.Asks row ∧ ∀ needle ∈ query.needle?,
      Text.isLike ("%" ++ needle ++ "%") row.name = true ∨
        Text.isLike ("%" ++ needle ++ "%") row.description = true := by
  rw [selects, search_pattern_eq, Option.all_map]
  simp only [Asks, Bool.and_eq_true, Query.passes_iff, Option.all_eq_true, Bool.or_eq_true,
    and_assoc]
  rfl

theorem selects_iff_finds (plain : ∀ needle ∈ query.needle?, Text.IsPlain needle)
    (seen : Text.IsSeen row.name ∧ Text.IsSeen row.description) :
    query.selects row = true ↔ query.Finds row := by
  rw [selects_iff_found, Finds]
  refine and_congr_right fun _ => forall₂_congr fun needle given => ?_
  rw [Text.is_like_of_plain (plain needle given) seen.1,
    Text.is_like_of_plain (plain needle given) seen.2]

end CompanyQuery

/-! ## A company for every needle that is not plain -/

namespace SmallCatalogue

def described (query : CompanyQuery) (text : String) : CompanyChanges :=
  { company with
    description := some text
    isCustomer := query.isCustomer
    isSupplier := query.isSupplier
    isManufacturer := query.isManufacturer }

def describedRow (query : CompanyQuery) (text : String) : Company :=
  { (described query text).create with pk := 1 }

def describedRun (query : CompanyQuery) (text : String) : List Operation :=
  [.createCompany (described query text) none]

theorem acme_is_plain : Text.IsPlain "Acme" := by
  simp [Text.IsPlain, Text.IsSeen]

theorem described_rows (query : CompanyQuery) (text : String) :
    (Store.empty.after (describedRun query text)).database.companies.rows =
      [describedRow query text] := by
  rfl

theorem described_is_asked (query : CompanyQuery) (text : String) :
    query.Asks (describedRow query text) := by
  refine ⟨fun flag given => ?_, fun flag given => ?_, fun flag given => ?_⟩ <;>
    simp only [describedRow, described, CompanyChanges.create, CompanyChanges.applyTo] <;>
    rw [Option.mem_def.1 given] <;> rfl

end SmallCatalogue

namespace Store

open SmallCatalogue in
theorem described_is_seen (query : CompanyQuery) {text : String} (plain : Text.IsPlain text) :
    (empty.after (describedRun query text)).database.HasSeenTexts := by
  intro row member
  rw [described_rows, List.mem_singleton] at member
  subst member
  exact ⟨acme_is_plain.1, plain.1⟩

open SmallCatalogue in
/-- The company with a sample of the needle is listed without containing the needle. -/
theorem search_of_sample {query : CompanyQuery} {needle : String}
    (given : needle ∈ query.needle?) (unplain : ¬ Text.IsPlain needle) :
    ¬ (empty.after (describedRun query (Text.sample needle))).database.SearchesTexts query := by
  have selected : query.selects (describedRow query (Text.sample needle)) = true := by
    rw [query.selects_iff_found]
    refine ⟨described_is_asked _ _, ?_⟩
    intro other same
    obtain rfl := Option.mem_unique given same
    exact .inr (Text.is_like_sample needle)
  rintro ⟨rows, entries, listed, listing⟩
  have one : rows.length = 1 := by
    rw [listing.read.length_eq, ← Except.ok.inj listed, Database.listCompanies, described_rows]
    simp [selected]
  obtain ⟨row, rfl⟩ := List.length_eq_one_iff.1 one
  obtain ⟨member, _, finds⟩ := (listing.mem_iff row).1 List.mem_cons_self
  rw [described_rows, List.mem_singleton] at member
  subst member
  rcases finds needle given with inName | inDescription
  · exact unplain (Text.is_plain_of_contains acme_is_plain inName)
  · exact unplain (Text.is_plain_of_contains (Text.sample_is_plain needle) inDescription)

/-- Search texts are found as they are written if and only if no character of theirs means
something else in a pattern. -/
theorem search_is_for_texts_iff (query : CompanyQuery) :
    (∀ operations : List Operation, (empty.after operations).database.HasSeenTexts →
        (empty.after operations).database.SearchesTexts query) ↔
      ∀ needle ∈ query.needle?, Text.IsPlain needle := by
  constructor
  · intro always needle given
    by_contra unplain
    have seen := described_is_seen query (Text.sample_is_plain needle)
    exact search_of_sample given unplain (always _ seen)
  · intro plain operations seen
    apply Database.lists_companies (reachable_is_sound operations).keys
    intro row member
    exact CompanyQuery.selects_iff_finds plain (seen row member)

end Store

open SmallCatalogue in
/-- A search for `a_b` lists a company that is described as `axb`. -/
theorem underscore_finds_any_character :
    ¬ ∀ (operations : List Operation) (query : CompanyQuery),
      (Store.empty.after operations).database.SearchesTexts query := by
  intro always
  have given : "a_b" ∈ (⟨none, none, none, some "a_b"⟩ : CompanyQuery).needle? := by decide
  have unplain : ¬ Text.IsPlain "a_b" := fun plain => (plain.2 '_' (by decide)).2 rfl
  have found : Text.sample "a_b" = "axb" := by decide
  exact Store.search_of_sample given unplain (found ▸ always (describedRun _ "axb") _)

end SupplyCatalog
