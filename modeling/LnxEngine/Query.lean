import LnxEngine.Schema

/-!
# Query trees

The boxed `dyn Query` values of `index/reader.rs` as one sum type, and the boolean matching of
`Occur` clauses relative to the engine's matching of each clause.
-/

namespace LnxEngine

/-- `tantivy::query::Occur`. -/
inductive Occur where
  | should
  | must
  | mustNot
  deriving DecidableEq, Repr

/-- `tantivy::schema::IndexRecordOption`. -/
inductive IndexRecordOption where
  | basic
  | withFreqs
  | withFreqsAndPositions
  deriving DecidableEq, Repr

/-- The settings a `MoreLikeThisQueryBuilder` records. -/
structure MoreLikeThisOptions where
  /-- `with_min_doc_frequency`. -/
  minDocFrequency : Nat
  /-- `with_max_doc_frequency`. -/
  maxDocFrequency : Nat
  /-- `with_min_term_frequency`. -/
  minTermFrequency : Nat
  /-- `with_min_word_length`. -/
  minWordLength : Nat
  /-- `with_max_word_length`. -/
  maxWordLength : Nat
  /-- `with_boost_factor`. -/
  boostFactor : Score
  /-- `with_stop_words`. -/
  stopWords : List String

/-- The queries the reader builds, or receives from tantivy's query parser. -/
inductive Query where
  /-- `TermQuery::new`. -/
  | term (term : Term) (option : IndexRecordOption)
  /-- `FuzzyTermQuery::new` and `new_prefix`: distance, transposition cost and prefix mode. -/
  | fuzzyTerm (term : Term) (distance : Nat) (transpositionCostOne : Bool) (isPrefix : Bool)
  /-- `BoostQuery::new`. -/
  | boost (query : Query) (boost : Score)
  /-- `BooleanQuery::from` a clause list. -/
  | boolean (clauses : List (Occur × Query))
  /-- `EmptyQuery`, which matches nothing. -/
  | empty
  /-- A `MoreLikeThisQuery` built against a reference document. -/
  | moreLikeThis (options : MoreLikeThisOptions) (document : DocAddress)

namespace Query

/-- `BooleanQuery::intersection`: every query a `Must` clause. -/
def intersection (queries : List Query) : Query :=
  .boolean (queries.map fun query => (.must, query))

/-- The clauses of a boolean query; none for any other query. -/
def clauses : Query → List (Occur × Query)
  | .boolean clauses => clauses
  | _ => []

/-- The term a term-level query looks up, through boost wrappers. -/
def leafTerm : Query → Option Term
  | .term looked _ => some looked
  | .fuzzyTerm looked _ _ _ => some looked
  | .boost inner _ => inner.leafTerm
  | _ => none

end Query

/-- One `Should` clause of a fuzzy builder, boosted when the field's boost is positive. -/
def boostedClause (boost : Score) (query : Query) : Occur × Query :=
  if boost > 0 then (.should, .boost query boost) else (.should, query)

@[simp] theorem boostedClause_occur (boost : Score) (query : Query) :
    (boostedClause boost query).1 = .should := by
  unfold boostedClause
  split <;> rfl

@[simp] theorem leafTerm_boostedClause (boost : Score) (query : Query) :
    (boostedClause boost query).2.leafTerm = query.leafTerm := by
  unfold boostedClause
  split <;> rfl

/-! ## Boolean matching -/

/-- Whether clauses admit a document, given which clause queries match it. -/
def matchesClauses (holds : Query → Bool) (clauses : List (Occur × Query)) : Bool :=
  clauses.all (fun clause => clause.1 != .must || holds clause.2) &&
    clauses.all (fun clause => clause.1 != .mustNot || !holds clause.2) &&
    (clauses.any (fun clause => clause.1 == .must) ||
      clauses.any (fun clause => clause.1 == .should && holds clause.2))

/-- An intersection matches exactly when it has a sub-query and every sub-query matches. -/
theorem matchesClauses_intersection (holds : Query → Bool) (queries : List Query) :
    matchesClauses holds (queries.map fun query => (.must, query)) = true ↔
      queries ≠ [] ∧ ∀ query ∈ queries, holds query = true := by
  cases queries with
  | nil => simp [matchesClauses]
  | cons first rest => simp [matchesClauses]

/-- Matching depends on the clauses, not on their order. -/
theorem matchesClauses_perm (holds : Query → Bool) {clauses clauses' : List (Occur × Query)}
    (reordered : clauses.Perm clauses') :
    matchesClauses holds clauses = matchesClauses holds clauses' := by
  have all : ∀ test : Occur × Query → Bool, clauses.all test = clauses'.all test := fun _ =>
    Bool.eq_iff_iff.mpr (by simp only [List.all_eq_true, reordered.mem_iff])
  have any : ∀ test : Occur × Query → Bool, clauses.any test = clauses'.any test := fun _ =>
    Bool.eq_iff_iff.mpr (by simp only [List.any_eq_true, reordered.mem_iff])
  simp only [matchesClauses, all, any]

/-- Clauses that are all `Should` form a disjunction. -/
theorem matchesClauses_of_should (holds : Query → Bool) (clauses : List (Occur × Query))
    (should : ∀ clause ∈ clauses, clause.1 = .should) :
    matchesClauses holds clauses = true ↔ ∃ clause ∈ clauses, holds clause.2 = true := by
  have noMust : ∀ clause ∈ clauses, clause.1 ≠ .must := fun clause mem => by
    simp [should clause mem]
  have noMustNot : ∀ clause ∈ clauses, clause.1 ≠ .mustNot := fun clause mem => by
    simp [should clause mem]
  simp only [matchesClauses, Bool.and_eq_true, Bool.or_eq_true, List.all_eq_true,
    List.any_eq_true, bne_iff_ne, beq_iff_eq, ne_eq, Bool.not_eq_true']
  constructor
  · rintro ⟨-, ⟨clause, mem, isMust⟩ | ⟨clause, mem, -, matched⟩⟩
    · exact absurd isMust (noMust clause mem)
    · exact ⟨clause, mem, matched⟩
  · rintro ⟨clause, mem, matched⟩
    exact ⟨⟨fun c cMem => .inl (noMust c cMem), fun c cMem => .inl (noMustNot c cMem)⟩,
      .inr ⟨clause, mem, should clause mem, matched⟩⟩

end LnxEngine
