import LnxEngine.Query
import Mathlib.Data.List.Basic
import Mathlib.Data.String.Basic

/-!
# The fuzzy query builders

`parse_fuzzy_query` and `parse_fast_fuzzy_query` cut a text at every single space with
`split(" ")` and add one `Should` clause per word and search field.
-/

namespace LnxEngine
namespace Reader

/-! ## Splitting at spaces -/

/-- `str::split(" ")`: the pieces between single spaces, empty pieces included. -/
def splitSpace (text : String) : List String :=
  text.split (· == ' ')

theorem splitSpace_eq (text : String) :
    splitSpace text = (text.data.splitOnP (· == ' ')).map String.mk :=
  String.split_of_valid text _

theorem mem_splitOnP_forall_not {α : Type} (p : α → Bool) (items : List α) :
    ∀ piece ∈ items.splitOnP p, ∀ item ∈ piece, p item = false := by
  induction items with
  | nil => simp
  | cons item items induction =>
      obtain ⟨first, rest, pieces⟩ := List.exists_cons_of_ne_nil (List.splitOnP_ne_nil p items)
      rw [List.splitOnP_cons, pieces]
      rw [pieces] at induction
      split
      · rintro piece (_ | ⟨_, mem⟩)
        · simp
        · exact induction piece mem
      · rename_i separator
        simp only [List.modifyHead_cons, List.mem_cons] at induction ⊢
        rintro piece (rfl | mem)
        · rintro member (_ | ⟨_, inFirst⟩)
          · simpa using separator
          · exact induction first (.inl rfl) member inFirst
        · exact induction piece (.inr mem)

theorem join_splitOnP {α : Type} (p : α → Bool) (items : List α) :
    (items.splitOnP p).flatten = items.filter (fun item => !p item) := by
  induction items with
  | nil => simp
  | cons item items induction =>
      rw [List.splitOnP_cons]
      obtain ⟨first, rest, pieces⟩ := List.exists_cons_of_ne_nil (List.splitOnP_ne_nil p items)
      split
      · rename_i separator
        simp [List.filter_cons, separator, induction]
      · rename_i separator
        rw [pieces] at induction ⊢
        simpa [List.filter_cons, separator] using induction

/-- No piece of a split contains a space. -/
theorem space_not_mem_splitSpace {text piece : String} (mem : piece ∈ splitSpace text) :
    ' ' ∉ piece.data := by
  rw [splitSpace_eq] at mem
  obtain ⟨chars, charsMem, rfl⟩ := List.mem_map.mp mem
  intro spaceMem
  simpa using mem_splitOnP_forall_not (· == ' ') text.data chars charsMem ' ' spaceMem

/-- The pieces of a split, joined, are the text without its spaces. -/
theorem join_splitSpace (text : String) :
    ((splitSpace text).map String.data).flatten = text.data.filter (· ≠ ' ') := by
  have roundTrip : (String.data ∘ String.mk) = id := rfl
  rw [splitSpace_eq, List.map_map, roundTrip, List.map_id, join_splitOnP]
  exact List.filter_congr fun char _ => by by_cases space : char = ' ' <;> simp [space]

/-- The pieces of a split, joined with single spaces, give the text back. -/
theorem intercalate_splitSpace (text : String) :
    [' '].intercalate ((splitSpace text).map String.data) = text.data := by
  have roundTrip : (String.data ∘ String.mk) = id := rfl
  rw [splitSpace_eq, List.map_map, roundTrip, List.map_id]
  exact List.intercalate_splitOn text.data ' '

/-! ## The builders -/

/-- `str::to_lowercase`, which leaves ASCII text without capitals as it is. -/
structure Lowercase where
  /-- The lowercasing. -/
  lower : String → String
  /-- ASCII text without capitals is already lowercase. -/
  ascii : ∀ text : String, (∀ char ∈ text.data, char.toNat < 128 ∧ char.isUpper = false) →
    lower text = text

/-- The inner loop of both builders: one boosted `Should` clause per search field. -/
def fieldClauses (searchFields : List (Field × Score)) (leaf : Field → Query) :
    List (Occur × Query) :=
  searchFields.map fun (field, boost) => boostedClause boost (leaf field)

/-- `parse_fuzzy_query`: a prefix fuzzy clause per non-empty lowercased word and field. -/
def parseFuzzyQuery (lowercase : Lowercase) (query : String) (searchFields : List (Field × Score)) :
    Query :=
  .boolean ((splitSpace (lowercase.lower query)).flatMap fun searchTerm =>
    if searchTerm.isEmpty then []
    else fieldClauses searchFields fun field =>
      .fuzzyTerm (Term.fromFieldText field searchTerm) 1 true true)

/-- Whether `parse_fast_fuzzy_query` drops stop words. -/
def ignoresStopWords (stopWords words : List String) (stripStopWords : Bool) : Bool :=
  stripStopWords && decide (words.length > 1) && words.any fun word => !stopWords.contains word

/-- `parse_fast_fuzzy_query`: a term clause per kept word of the corrected query and field. -/
def parseFastFuzzyQuery (correctSentence : String → Nat → String)
    (stopWords : Except Error (List String)) (query : String)
    (searchFields : List (Field × Score)) (stripStopWords : Bool) : Except Error Query :=
  if query.isEmpty then .ok .empty
  else
    match stopWords with
    | .error error => .error error
    | .ok stopWords =>
        let words := splitSpace (correctSentence query 1)
        let ignoreStopWords := ignoresStopWords stopWords words stripStopWords
        .ok (.boolean (words.flatMap fun searchTerm =>
          if ignoreStopWords && stopWords.contains searchTerm then []
          else fieldClauses searchFields fun field =>
            .term (Term.fromFieldText field searchTerm) .withFreqs))

/-! ## Clause terms -/

/-- The terms a boolean query's clauses look up, in clause order. -/
def clauseTerms : Query → List Term
  | .boolean clauses => clauses.filterMap fun clause => clause.2.leafTerm
  | _ => []

theorem filterMap_leafTerm_fieldClauses (searchFields : List (Field × Score))
    (text : String) (leaf : Term → Query) (leafTerm : ∀ term, (leaf term).leafTerm = some term) :
    (fieldClauses searchFields fun field => leaf (Term.fromFieldText field text)).filterMap
        (fun clause => clause.2.leafTerm) =
      searchFields.map fun entry => Term.fromFieldText entry.1 text := by
  induction searchFields with
  | nil => rfl
  | cons entry searchFields induction =>
      simp [fieldClauses, leafTerm] at induction ⊢
      exact induction

theorem flatMap_ite_nil {α β : Type} (items : List α) (skip : α → Bool) (f : α → List β) :
    (items.flatMap fun item => if skip item then [] else f item) =
      (items.filter fun item => !skip item).flatMap f := by
  induction items with
  | nil => rfl
  | cons item items induction => cases skipped : skip item <;> simp [skipped, induction]

theorem clauseTerms_flatMap_fieldClauses (words : List String)
    (searchFields : List (Field × Score)) (leaf : Term → Query)
    (leafTerm : ∀ term, (leaf term).leafTerm = some term) :
    clauseTerms (.boolean (words.flatMap fun word =>
        fieldClauses searchFields fun field => leaf (Term.fromFieldText field word))) =
      words.flatMap fun word => searchFields.map fun entry => Term.fromFieldText entry.1 word := by
  simp only [clauseTerms, List.filterMap_flatMap,
    filterMap_leafTerm_fieldClauses _ _ leaf leafTerm]

theorem clauseTerms_parseFuzzyQuery (lowercase : Lowercase) (query : String)
    (searchFields : List (Field × Score)) :
    clauseTerms (parseFuzzyQuery lowercase query searchFields) =
      ((splitSpace (lowercase.lower query)).filter fun piece => !piece.isEmpty).flatMap fun word =>
        searchFields.map fun entry => Term.fromFieldText entry.1 word := by
  rw [parseFuzzyQuery, flatMap_ite_nil]
  exact clauseTerms_flatMap_fieldClauses _ _ (fun term => .fuzzyTerm term 1 true true)
    fun _ => rfl

theorem matchesClauses_flatMap_fieldClauses (holds : Query → Bool)
    (boostKeeps : ∀ query boost, holds (.boost query boost) = holds query)
    (words : List String) (searchFields : List (Field × Score)) (leaf : Field → String → Query) :
    matchesClauses holds (words.flatMap fun word => fieldClauses searchFields (leaf · word)) =
        true ↔
      ∃ word ∈ words, ∃ entry ∈ searchFields, holds (leaf entry.1 word) = true := by
  have held : ∀ boost query, holds (boostedClause boost query).2 = holds query := by
    intro boost query
    unfold boostedClause
    split <;> simp [boostKeeps]
  rw [matchesClauses_of_should _ _ fun clause mem => ?should]
  · constructor
    · rintro ⟨clause, mem, matched⟩
      obtain ⟨word, wordMem, clauseMem⟩ := List.mem_flatMap.mp mem
      obtain ⟨⟨field, boost⟩, entryMem, rfl⟩ := List.mem_map.mp clauseMem
      exact ⟨word, wordMem, (field, boost), entryMem, (held _ _).symm.trans matched⟩
    · rintro ⟨word, wordMem, ⟨field, boost⟩, entryMem, matched⟩
      exact ⟨_, List.mem_flatMap.mpr ⟨word, wordMem, List.mem_map.mpr ⟨(field, boost), entryMem,
        rfl⟩⟩, (held _ _).trans matched⟩
  · obtain ⟨word, -, clauseMem⟩ := List.mem_flatMap.mp mem
    obtain ⟨⟨field, boost⟩, -, rfl⟩ := List.mem_map.mp clauseMem
    exact boostedClause_occur _ _

theorem parseFastFuzzyQuery_eq (correctSentence : String → Nat → String)
    (stopWords : List String) (query : String) (searchFields : List (Field × Score))
    (stripStopWords : Bool) (nonempty : query ≠ "") :
    parseFastFuzzyQuery correctSentence (.ok stopWords) query searchFields stripStopWords =
      .ok (.boolean (((splitSpace (correctSentence query 1)).filter fun word =>
          !(ignoresStopWords stopWords (splitSpace (correctSentence query 1)) stripStopWords &&
            stopWords.contains word)).flatMap fun word =>
        fieldClauses searchFields fun field => .term (Term.fromFieldText field word) .withFreqs)) := by
  have notEmpty : query.isEmpty = false :=
    Bool.eq_false_iff.mpr fun empty => nonempty ((String.isEmpty_iff query).mp empty)
  rw [parseFastFuzzyQuery, if_neg (by rw [notEmpty]; decide)]
  dsimp only
  rw [flatMap_ite_nil]

theorem flatten_filter_nonempty (pieces : List String) :
    ((pieces.filter fun piece => !piece.isEmpty).map String.data).flatten =
      (pieces.map String.data).flatten := by
  induction pieces with
  | nil => rfl
  | cons piece pieces induction =>
      by_cases empty : piece.isEmpty
      · rw [List.filter_cons_of_neg (by simp [empty])]
        simpa [(String.isEmpty_iff piece).mp empty] using induction
      · simp [empty, induction]

/-! ## The plain fuzzy builder -/

/-- Clauses per non-empty space-free piece of the lowercased query and field, boosted iff `b > 0`. -/
theorem parseFuzzyQuery_space_pieces (lowercase : Lowercase) (query : String)
    (searchFields : List (Field × Score)) :
    let pieces := splitSpace (lowercase.lower query)
    parseFuzzyQuery lowercase query searchFields =
        .boolean ((pieces.filter fun piece => !piece.isEmpty).flatMap fun word =>
          searchFields.map fun (field, boost) =>
            if boost > 0 then
              (.should, .boost (.fuzzyTerm (Term.fromFieldText field word) 1 true true) boost)
            else (.should, .fuzzyTerm (Term.fromFieldText field word) 1 true true)) ∧
      [' '].intercalate (pieces.map String.data) = (lowercase.lower query).data ∧
      (∀ word ∈ pieces.filter (fun piece => !piece.isEmpty), word ≠ "" ∧ ' ' ∉ word.data) ∧
      ((pieces.filter fun piece => !piece.isEmpty).map String.data).flatten =
        (lowercase.lower query).data.filter (· ≠ ' ') := by
  intro pieces
  refine ⟨by rw [parseFuzzyQuery, flatMap_ite_nil]; rfl, intercalate_splitSpace _,
    fun word mem => ?_, by rw [flatten_filter_nonempty, join_splitSpace]⟩
  obtain ⟨piece, nonempty⟩ := List.mem_filter.mp mem
  have notEmpty : ¬word.isEmpty := by simpa using nonempty
  exact ⟨fun same => notEmpty ((String.isEmpty_iff word).mpr same),
    space_not_mem_splitSpace piece⟩

/-- Under every lowercasing, a tab separates no words: `"a\tb"` gives a single term. -/
theorem clauseTerms_parseFuzzyQuery_tab (lowercase : Lowercase) :
    clauseTerms (parseFuzzyQuery lowercase "a\tb" [(⟨0⟩, 0)]) = [Term.fromFieldText ⟨0⟩ "a\tb"] := by
  have unchanged : lowercase.lower "a\tb" = "a\tb" := lowercase.ascii _ (by decide)
  rw [clauseTerms_parseFuzzyQuery, unchanged, splitSpace_eq]
  decide

theorem toLower_eq_self {char : Char} (notUpper : char.isUpper = false) : char.toLower = char := by
  simp only [Char.toLower]
  rw [if_neg]
  rintro ⟨low, high⟩
  simp [Char.isUpper, UInt32.le_def, BitVec.le_def, Char.toNat, UInt32.toNat] at notUpper low high
  omega

/-- The ASCII case mapping, which is what `str::to_lowercase` does on ASCII text. -/
def asciiLowercase : Lowercase where
  lower text := ⟨text.data.map Char.toLower⟩
  ascii text plain := by
    obtain ⟨data⟩ := text
    exact congrArg String.mk ((List.map_congr_left fun char mem =>
      toLower_eq_self (plain char mem).2).trans (List.map_id data))

/-- A tab separates no words: `"a\tb"` gives one clause, whose term holds a whitespace. -/
theorem parseFuzzyQuery_tab_term :
    clauseTerms (parseFuzzyQuery asciiLowercase "a\tb" [(⟨0⟩, 0)]) =
      [Term.fromFieldText ⟨0⟩ "a\tb"] ∧ '\t'.isWhitespace = true :=
  ⟨clauseTerms_parseFuzzyQuery_tab asciiLowercase, rfl⟩

/-! ## The fast fuzzy builder -/

/-- The fast builder's clauses are over the kept space-free pieces and match as a disjunction. -/
theorem parseFastFuzzyQuery_kept_pieces (correctSentence : String → Nat → String)
    (stopWords : List String) (query : String) (searchFields : List (Field × Score))
    (stripStopWords : Bool) (nonempty : query ≠ "") :
    let pieces := splitSpace (correctSentence query 1)
    let kept := if stripStopWords = true ∧ 1 < pieces.length ∧ ∃ piece ∈ pieces, piece ∉ stopWords
      then pieces.filter (· ∉ stopWords) else pieces
    ∃ clauses, parseFastFuzzyQuery correctSentence (.ok stopWords) query searchFields
        stripStopWords = .ok (.boolean clauses) ∧
      clauses = kept.flatMap (fun word => searchFields.map fun (field, boost) =>
        if boost > 0 then (.should, .boost (.term (Term.fromFieldText field word) .withFreqs) boost)
        else (.should, .term (Term.fromFieldText field word) .withFreqs)) ∧
      [' '].intercalate (pieces.map String.data) = (correctSentence query 1).data ∧
      (∀ piece ∈ pieces, ' ' ∉ piece.data) ∧ kept ≠ [] ∧
      ∀ holds : Query → Bool, (∀ query boost, holds (.boost query boost) = holds query) →
        (matchesClauses holds clauses = true ↔ ∃ word ∈ kept, ∃ entry ∈ searchFields,
          holds (.term (Term.fromFieldText entry.1 word) .withFreqs) = true) := by
  intro pieces kept
  have ignores : ignoresStopWords stopWords pieces stripStopWords = true ↔
      stripStopWords = true ∧ 1 < pieces.length ∧ ∃ piece ∈ pieces, piece ∉ stopWords := by
    simp [ignoresStopWords, and_assoc]
  have keptEq : (pieces.filter fun word =>
      !(ignoresStopWords stopWords pieces stripStopWords && stopWords.contains word)) = kept := by
    by_cases strip : ignoresStopWords stopWords pieces stripStopWords = true
    · simp only [kept, if_pos (ignores.mp strip)]
      exact List.filter_congr fun piece _ => by simp [strip]
    · simp only [kept, if_neg (mt ignores.mpr strip)]
      simp [Bool.eq_false_iff.mpr strip]
  have nonemptyKept : kept ≠ [] := by
    by_cases strip : stripStopWords = true ∧ 1 < pieces.length ∧ ∃ piece ∈ pieces, piece ∉ stopWords
    · obtain ⟨piece, mem, notStop⟩ := strip.2.2
      simp only [kept, if_pos strip]
      exact List.ne_nil_of_mem (List.mem_filter.mpr ⟨mem, by simpa using notStop⟩)
    · simp only [kept, if_neg strip]
      show splitSpace (correctSentence query 1) ≠ []
      rw [splitSpace_eq]
      simpa using List.splitOnP_ne_nil _ _
  refine ⟨_, parseFastFuzzyQuery_eq _ _ _ _ _ nonempty, by rw [keptEq]; rfl,
    intercalate_splitSpace _, fun piece => space_not_mem_splitSpace, nonemptyKept,
    fun holds boostKeeps => ?_⟩
  rw [keptEq]
  exact matchesClauses_flatMap_fieldClauses holds boostKeeps kept searchFields
    fun field word => .term (Term.fromFieldText field word) .withFreqs

/-- With `"the"` a stop word, `"the cat"` keeps only `"cat"`. -/
theorem parseFastFuzzyQuery_kept_pieces_the_cat :
    "the cat" ≠ "" ∧
      let pieces := splitSpace ((fun sentence _ => sentence : String → Nat → String) "the cat" 1)
      let kept := if true = true ∧ 1 < pieces.length ∧ ∃ piece ∈ pieces, piece ∉ ["the"]
        then pieces.filter (· ∉ ["the"]) else pieces
      ∃ clauses, parseFastFuzzyQuery (fun sentence _ => sentence) (.ok ["the"]) "the cat"
          [(⟨0⟩, 1)] true = .ok (.boolean clauses) ∧
        clauses = kept.flatMap (fun word => [(⟨0⟩, (1 : Score))].map fun (field, boost) =>
          if boost > 0 then (.should, .boost (.term (Term.fromFieldText field word) .withFreqs) boost)
          else (.should, .term (Term.fromFieldText field word) .withFreqs)) ∧
        [' '].intercalate (pieces.map String.data) = "the cat".data ∧
        (∀ piece ∈ pieces, ' ' ∉ piece.data) ∧ kept ≠ [] ∧
        ∀ holds : Query → Bool, (∀ query boost, holds (.boost query boost) = holds query) →
          (matchesClauses holds clauses = true ↔ ∃ word ∈ kept, ∃ entry ∈ [(⟨0⟩, (1 : Score))],
            holds (.term (Term.fromFieldText entry.1 word) .withFreqs) = true) :=
  ⟨by decide, parseFastFuzzyQuery_kept_pieces (fun sentence _ => sentence) ["the"] "the cat"
    [(⟨0⟩, 1)] true (by decide)⟩

/-- On `"the "` with `"the"` a stop word, the empty trailing piece makes stripping keep only it. -/
theorem parseFastFuzzyQuery_trailing_space :
    (clauseTerms <$> parseFastFuzzyQuery (fun sentence _ => sentence) (.ok ["the"]) "the "
      [(⟨0⟩, 0)] true).toOption = some [Term.fromFieldText ⟨0⟩ ""] := by
  rw [parseFastFuzzyQuery_eq _ _ _ _ _ (by decide)]
  show some (clauseTerms _) = _
  rw [clauseTerms_flatMap_fieldClauses _ _ (fun term => .term term .withFreqs) fun _ => rfl]
  simp only [ignoresStopWords, splitSpace_eq]
  decide

end Reader
end LnxEngine
