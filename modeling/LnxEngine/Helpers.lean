import Mathlib.Data.List.AList
import Mathlib.Data.Nat.Digits
import Mathlib.Tactic.IntervalCases
import Mathlib.Tactic.Ring

/-!
# The field corrector

`helpers::correct_doc_fields` writes, for each indexed text field, a shadow field
`"_" ++ hash(name)` holding the corrected text, computed from the original document; the hasher
and `correct_sentence` are parameters.
-/

namespace LnxEngine

/-- `DocumentValue`, from the spec: `Text`, and the other variants as one constructor. -/
inductive DocumentValue where
  | text (data : String)
  | other (rendering : String)
  deriving DecidableEq, Repr

/-- `DocumentItem`, from the spec: a single value or an ordered list. -/
inductive DocumentItem where
  | single (value : DocumentValue)
  | multi (values : List DocumentValue)
  deriving DecidableEq, Repr

/-- `Document`, from the spec: a map from field names to items. -/
structure Document where
  /-- The wrapped map, `doc.0`. -/
  fields : AList (fun _ : String => DocumentItem)

/-- The text a value holds, if it is a `Text` value. -/
def DocumentValue.text? : DocumentValue → Option String
  | .text data => some data
  | .other _ => none

section Corrector

variable (hash : String → UInt64) (correctSentence : String → Nat → String)

/-- `format!("_{}", hash(target))`: the shadow field of a target field. -/
def shadowKey (target : String) : String := "_" ++ toString (hash target)

/-- The shadow item one target's item yields in the first loop, if any. -/
def correctedItem : DocumentItem → Option DocumentItem
  | .single (.text data) => some (.single (.text (correctSentence data 1)))
  | .single (.other _) => none
  | .multi values =>
      let localChanges := values.filterMap fun value =>
        match value with
        | .text data => some (DocumentValue.text (correctSentence data 1))
        | .other _ => none
      if localChanges.length > 0 then some (.multi localChanges) else none

/-- The `changes` collected by the first loop of `correct_doc_fields`. -/
def changes (doc : Document) (indexedTextFields : List String) : List (String × DocumentItem) :=
  indexedTextFields.filterMap fun target =>
    ((doc.fields.lookup target).bind (correctedItem correctSentence)).map
      fun item => (shadowKey hash target, item)

/-- `helpers::correct_doc_fields`: collect the changes, then insert them in order. -/
def correctDocFields (doc : Document) (indexedTextFields : List String) : Document :=
  ⟨(changes hash correctSentence doc indexedTextFields).foldl
    (fun fields change => fields.insert change.1 change.2) doc.fields⟩

end Corrector

/-! ## Inserting a list of changes -/

section Inserts

variable {β : Type} (updates : List (String × β)) (fields : AList (fun _ : String => β))

/-- After a run of inserts, a key holds its last update, or its old value if it had none. -/
theorem lookup_foldl_insert (key : String) :
    (updates.foldl (fun fields change => fields.insert change.1 change.2) fields).lookup key =
      ((updates.reverse.find? (·.1 == key)).map (·.2)).or (fields.lookup key) := by
  induction updates generalizing fields with
  | nil => simp
  | cons update updates induction =>
      rw [List.foldl_cons, induction, List.reverse_cons, List.find?_append]
      cases updates.reverse.find? (·.1 == key) with
      | some found => rfl
      | none =>
          by_cases same : update.1 = key
          · subst same
            simp [AList.lookup_insert]
          · simp [same, AList.lookup_insert_ne (Ne.symm same)]

theorem lookup_foldl_insert_of_forall_ne {key : String}
    (untouched : ∀ update ∈ updates, update.1 ≠ key) :
    (updates.foldl (fun fields change => fields.insert change.1 change.2) fields).lookup key =
      fields.lookup key := by
  have none : updates.reverse.find? (·.1 == key) = none :=
    List.find?_eq_none.mpr fun update mem => by
      simpa using untouched update (List.mem_reverse.mp mem)
  simp [lookup_foldl_insert, none]

theorem lookup_foldl_insert_of_agree {key : String} {value : β}
    (touched : ∃ update ∈ updates, update.1 = key)
    (agree : ∀ update ∈ updates, update.1 = key → update.2 = value) :
    (updates.foldl (fun fields change => fields.insert change.1 change.2) fields).lookup key =
      some value := by
  obtain ⟨update, mem, same⟩ := touched
  cases found : updates.reverse.find? (·.1 == key) with
  | none =>
      have := List.find?_eq_none.mp found update (List.mem_reverse.mpr mem)
      simp [same] at this
  | some last =>
      have lastKey : last.1 = key := by simpa using List.find?_some found
      have lastMem : last ∈ updates := List.mem_reverse.mp (List.mem_of_find?_eq_some found)
      simp [lookup_foldl_insert, found, agree last lastMem lastKey]

end Inserts

/-! ## Shadow keys are injective in the hash -/

/-- Reads back the number a list of decimal digits renders. -/
def decimalValue : List Char → Nat
  | [] => 0
  | digit :: digits => (digit.toNat - 48) * 10 ^ digits.length + decimalValue digits

theorem digitChar_toNat_sub {digit : Nat} (small : digit < 10) :
    (Nat.digitChar digit).toNat - 48 = digit := by
  interval_cases digit <;> rfl

theorem decimalValue_toDigitsCore (fuel number : Nat) (digits : List Char)
    (enough : number < fuel) :
    decimalValue (Nat.toDigitsCore 10 fuel number digits) =
      number * 10 ^ digits.length + decimalValue digits := by
  induction fuel generalizing number digits with
  | zero => omega
  | succ fuel induction =>
      have split := Nat.div_add_mod number 10
      have lowest : decimalValue (Nat.digitChar (number % 10) :: digits) =
          number % 10 * 10 ^ digits.length + decimalValue digits := by
        simp [decimalValue, digitChar_toNat_sub (Nat.mod_lt number (by omega : 10 > 0))]
      simp only [Nat.toDigitsCore]
      split
      · rename_i noHigher
        rw [lowest, Nat.mod_eq_of_lt (by omega)]
      · rw [induction (number / 10) _ (by omega), lowest, List.length_cons, pow_succ]
        calc number / 10 * (10 ^ digits.length * 10) +
              (number % 10 * 10 ^ digits.length + decimalValue digits)
            = (10 * (number / 10) + number % 10) * 10 ^ digits.length +
                decimalValue digits := by ring
          _ = number * 10 ^ digits.length + decimalValue digits := by rw [split]

theorem decimalValue_repr (number : Nat) : decimalValue (Nat.repr number).data = number := by
  simpa using decimalValue_toDigitsCore (number + 1) number [] (by omega)

theorem shadowKey_hash_eq {hash : String → UInt64} {first second : String}
    (same : shadowKey hash first = shadowKey hash second) : hash first = hash second := by
  have data := congrArg String.data same
  simp only [shadowKey, String.data_append] at data
  have renders := congrArg decimalValue (List.append_cancel_left data)
  change decimalValue (Nat.repr (hash first).toNat).data =
    decimalValue (Nat.repr (hash second).toNat).data at renders
  exact UInt64.toNat.inj (by simpa only [decimalValue_repr] using renders)

/-! ## What the corrector writes -/

section Spec

variable {hash : String → UInt64} {correctSentence : String → Nat → String}
  {doc : Document} {targets : List String}

theorem mem_changes {change : String × DocumentItem} :
    change ∈ changes hash correctSentence doc targets ↔
      ∃ target ∈ targets, change.1 = shadowKey hash target ∧
        (doc.fields.lookup target).bind (correctedItem correctSentence) = some change.2 := by
  simp only [changes, List.mem_filterMap, Option.map_eq_some']
  constructor
  · rintro ⟨target, mem, item, found, rfl⟩
    exact ⟨target, mem, rfl, found⟩
  · rintro ⟨target, mem, key, found⟩
    exact ⟨target, mem, change.2, found, Prod.ext key.symm rfl⟩

/-- Under an injective hash, a target's shadow key holds its corrected item, else its old value. -/
theorem lookup_shadowKey
    (injective : ∀ first ∈ targets, ∀ second ∈ targets, hash first = hash second → first = second)
    {target : String} (mem : target ∈ targets) :
    (correctDocFields hash correctSentence doc targets).fields.lookup (shadowKey hash target) =
      ((doc.fields.lookup target).bind (correctedItem correctSentence)).or
        (doc.fields.lookup (shadowKey hash target)) := by
  have fromTarget : ∀ change ∈ changes hash correctSentence doc targets,
      change.1 = shadowKey hash target →
        (doc.fields.lookup target).bind (correctedItem correctSentence) = some change.2 := by
    intro change changeMem key
    obtain ⟨source, sourceMem, sourceKey, found⟩ := mem_changes.mp changeMem
    have same := injective source sourceMem target mem
      (shadowKey_hash_eq (sourceKey.symm.trans key))
    rwa [same] at found
  cases yielded : (doc.fields.lookup target).bind (correctedItem correctSentence) with
  | none =>
      refine lookup_foldl_insert_of_forall_ne _ _ fun change changeMem key => ?_
      simpa [yielded] using fromTarget change changeMem key
  | some item =>
      refine lookup_foldl_insert_of_agree _ _ ⟨(shadowKey hash target, item),
        mem_changes.mpr ⟨target, mem, rfl, yielded⟩, rfl⟩ fun change changeMem key => ?_
      simpa [yielded] using (fromTarget change changeMem key).symm

/-- The second loop over a multi-valued item corrects its text values, in order. -/
theorem correctedItem_multi (values : List DocumentValue) :
    correctedItem correctSentence (.multi values) =
      let corrected := (values.filterMap DocumentValue.text?).map
        fun data => DocumentValue.text (correctSentence data 1)
      if corrected.length > 0 then some (.multi corrected) else none := by
  have corrections : (values.filterMap fun value =>
        match value with
        | .text data => some (DocumentValue.text (correctSentence data 1))
        | .other _ => none) =
      (values.filterMap DocumentValue.text?).map fun data => .text (correctSentence data 1) := by
    induction values with
    | nil => rfl
    | cons value values induction =>
        cases value <;> simp [DocumentValue.text?, induction]
  simp only [correctedItem, corrections]

theorem length_corrected_pos_iff (values : List DocumentValue) :
    0 < ((values.filterMap DocumentValue.text?).map
        fun data => DocumentValue.text (correctSentence data 1)).length ↔
      ∃ data, DocumentValue.text data ∈ values := by
  simp only [List.length_map, List.length_pos, ne_eq, List.filterMap_eq_nil_iff, not_forall,
    Classical.not_not]
  constructor
  · rintro ⟨value, mem, found⟩
    cases value with
    | text data => exact ⟨data, mem⟩
    | other _ => simp [DocumentValue.text?] at found
  · rintro ⟨data, mem⟩
    exact ⟨.text data, mem, by simp [DocumentValue.text?]⟩

theorem lookup_correctDocFields_of_ne {key : String}
    (notShadow : ∀ target ∈ targets, key ≠ shadowKey hash target) :
    (correctDocFields hash correctSentence doc targets).fields.lookup key =
      doc.fields.lookup key :=
  lookup_foldl_insert_of_forall_ne _ _ fun change changeMem same => by
    obtain ⟨target, mem, key', -⟩ := mem_changes.mp changeMem
    exact notShadow target mem (same ▸ key')

/-- The corrector changes only the shadow keys, each to the correction of its target's value. -/
theorem correctDocFields_shadow_entries
    (injective : ∀ first ∈ targets, ∀ second ∈ targets, hash first = hash second → first = second) :
    (∀ key, (∀ target ∈ targets, key ≠ shadowKey hash target) →
        (correctDocFields hash correctSentence doc targets).fields.lookup key =
          doc.fields.lookup key) ∧
    (∀ key ∈ (correctDocFields hash correctSentence doc targets).fields,
        key ∈ doc.fields ∨ ∃ target ∈ targets, key = shadowKey hash target) ∧
    (∀ target ∈ targets,
      (∀ data, doc.fields.lookup target = some (.single (.text data)) →
        (correctDocFields hash correctSentence doc targets).fields.lookup (shadowKey hash target) =
          some (.single (.text (correctSentence data 1)))) ∧
      (∀ values, doc.fields.lookup target = some (.multi values) →
        (∃ data, DocumentValue.text data ∈ values) →
        (correctDocFields hash correctSentence doc targets).fields.lookup (shadowKey hash target) =
          some (.multi ((values.filterMap DocumentValue.text?).map
            fun data => .text (correctSentence data 1)))) ∧
      ((∀ data, doc.fields.lookup target ≠ some (.single (.text data))) →
        (∀ values, doc.fields.lookup target = some (.multi values) →
          ∀ data, DocumentValue.text data ∉ values) →
        (correctDocFields hash correctSentence doc targets).fields.lookup (shadowKey hash target) =
          doc.fields.lookup (shadowKey hash target))) := by
  refine ⟨fun key => lookup_correctDocFields_of_ne, fun key mem => ?_,
    fun target targetMem => ⟨fun data single => ?_, fun values multi hasText => ?_,
      fun noSingle noMulti => ?_⟩⟩
  · by_cases shadow : ∃ target ∈ targets, key = shadowKey hash target
    · exact .inr shadow
    · push_neg at shadow
      rw [← AList.lookup_isSome, lookup_correctDocFields_of_ne shadow] at mem
      exact .inl (AList.lookup_isSome.mp mem)
  · simp [lookup_shadowKey injective targetMem, single, correctedItem]
  · have positive := (@length_corrected_pos_iff correctSentence values).mpr hasText
    rw [lookup_shadowKey injective targetMem, multi, Option.some_bind, correctedItem_multi]
    dsimp only
    rw [if_pos positive]
    rfl
  · rw [lookup_shadowKey injective targetMem]
    cases found : doc.fields.lookup target with
    | none => rfl
    | some item =>
        cases item with
        | single value =>
            cases value with
            | text data => exact absurd found (noSingle data)
            | other _ => rfl
        | multi values =>
            have notPositive := mt (@length_corrected_pos_iff correctSentence values).mp
              (by simpa using noMulti values found)
            rw [Option.some_bind, correctedItem_multi]
            dsimp only
            rw [if_neg notPositive]
            rfl

/-- The corrector on a single and a multi text target, each with its own hash. -/
theorem correctDocFields_shadow_entries_title_body :
    let doc : Document := ⟨((∅ : AList (fun _ : String => DocumentItem)).insert "title"
      (.single (.text "helo"))).insert "body" (.multi [.text "wrld", .other "1"])⟩
    let hash : String → UInt64 := fun name => if name = "title" then 1 else 2
    let correctSentence : String → Nat → String := fun text _ => text ++ "!"
    (∀ first ∈ ["title", "body"], ∀ second ∈ ["title", "body"], hash first = hash second →
      first = second) ∧
    ((∀ key, (∀ target ∈ ["title", "body"], key ≠ shadowKey hash target) →
        (correctDocFields hash correctSentence doc ["title", "body"]).fields.lookup key =
          doc.fields.lookup key) ∧
    (∀ key ∈ (correctDocFields hash correctSentence doc ["title", "body"]).fields,
        key ∈ doc.fields ∨ ∃ target ∈ ["title", "body"], key = shadowKey hash target) ∧
    (∀ target ∈ ["title", "body"],
      (∀ data, doc.fields.lookup target = some (.single (.text data)) →
        (correctDocFields hash correctSentence doc ["title", "body"]).fields.lookup
          (shadowKey hash target) = some (.single (.text (correctSentence data 1)))) ∧
      (∀ values, doc.fields.lookup target = some (.multi values) →
        (∃ data, DocumentValue.text data ∈ values) →
        (correctDocFields hash correctSentence doc ["title", "body"]).fields.lookup
          (shadowKey hash target) = some (.multi ((values.filterMap DocumentValue.text?).map
            fun data => .text (correctSentence data 1)))) ∧
      ((∀ data, doc.fields.lookup target ≠ some (.single (.text data))) →
        (∀ values, doc.fields.lookup target = some (.multi values) →
          ∀ data, DocumentValue.text data ∉ values) →
        (correctDocFields hash correctSentence doc ["title", "body"]).fields.lookup
          (shadowKey hash target) = doc.fields.lookup (shadowKey hash target)))) := by
  intro doc hash correctSentence
  have injective : ∀ first ∈ ["title", "body"], ∀ second ∈ ["title", "body"],
      hash first = hash second → first = second := by
    simp [hash]
  exact ⟨injective, correctDocFields_shadow_entries injective⟩

/-- A second run changes no field, provided no target is itself a target's shadow key. -/
theorem correctDocFields_idempotent
    (injective : ∀ first ∈ targets, ∀ second ∈ targets, hash first = hash second → first = second)
    (apart : ∀ target ∈ targets, ∀ other ∈ targets, target ≠ shadowKey hash other) (key : String) :
    (correctDocFields hash correctSentence (correctDocFields hash correctSentence doc targets)
        targets).fields.lookup key =
      (correctDocFields hash correctSentence doc targets).fields.lookup key := by
  by_cases shadow : ∃ target ∈ targets, key = shadowKey hash target
  · obtain ⟨target, mem, rfl⟩ := shadow
    rw [lookup_shadowKey injective mem, lookup_shadowKey injective mem,
      lookup_correctDocFields_of_ne (apart target mem)]
    cases (doc.fields.lookup target).bind (correctedItem correctSentence) <;> rfl
  · push_neg at shadow
    rw [lookup_correctDocFields_of_ne shadow]

/-- Under an injective hash, only which fields are targets matters, not order or repeats. -/
theorem correctDocFields_eq_of_mem_iff
    (injective : ∀ first ∈ targets, ∀ second ∈ targets, hash first = hash second → first = second)
    {targets' : List String} (same : ∀ target, target ∈ targets ↔ target ∈ targets')
    (key : String) :
    (correctDocFields hash correctSentence doc targets').fields.lookup key =
      (correctDocFields hash correctSentence doc targets).fields.lookup key := by
  have injective' : ∀ first ∈ targets', ∀ second ∈ targets',
      hash first = hash second → first = second := fun first firstMem second secondMem =>
    injective first ((same first).mpr firstMem) second ((same second).mpr secondMem)
  by_cases shadow : ∃ target ∈ targets, key = shadowKey hash target
  · obtain ⟨target, mem, rfl⟩ := shadow
    rw [lookup_shadowKey injective mem, lookup_shadowKey injective' ((same target).mp mem)]
  · push_neg at shadow
    rw [lookup_correctDocFields_of_ne shadow,
      lookup_correctDocFields_of_ne fun target mem => shadow target ((same target).mpr mem)]

/-- Two text targets, listed once and then in the other order with a repeat. -/
theorem correctDocFields_eq_of_mem_iff_reordered :
    let doc : Document := ⟨((∅ : AList (fun _ : String => DocumentItem)).insert "title"
      (.single (.text "helo"))).insert "body" (.multi [.text "wrld", .other "1"])⟩
    let hash : String → UInt64 := fun name => if name = "title" then 1 else 2
    (∀ first ∈ ["title", "body"], ∀ second ∈ ["title", "body"], hash first = hash second →
      first = second) ∧
    (∀ target, target ∈ ["title", "body"] ↔ target ∈ ["body", "title", "body"]) ∧
    ∀ key, (correctDocFields hash (fun text _ => text) doc ["body", "title", "body"]).fields.lookup
        key = (correctDocFields hash (fun text _ => text) doc ["title", "body"]).fields.lookup key := by
  intro doc hash
  have injective : ∀ first ∈ ["title", "body"], ∀ second ∈ ["title", "body"],
      hash first = hash second → first = second := by
    simp [hash]
  have same : ∀ target, target ∈ ["title", "body"] ↔ target ∈ ["body", "title", "body"] := by
    simp [or_comm]
  exact ⟨injective, same, correctDocFields_eq_of_mem_iff injective same⟩

/-- Correcting a document with one text target twice gives the fields of the first run. -/
theorem correctDocFields_idempotent_title :
    let doc : Document := ⟨(∅ : AList (fun _ : String => DocumentItem)).insert "title"
      (.single (.text "helo"))⟩
    (∀ first ∈ ["title"], ∀ second ∈ ["title"], (fun _ => 0 : String → UInt64) first =
      (fun _ => 0 : String → UInt64) second → first = second) ∧
    (∀ target ∈ ["title"], ∀ other ∈ ["title"], target ≠ shadowKey (fun _ => 0) other) ∧
    ∀ key, (correctDocFields (fun _ => 0) (fun _ _ => "hello")
        (correctDocFields (fun _ => 0) (fun _ _ => "hello") doc ["title"]) ["title"]).fields.lookup
          key =
      (correctDocFields (fun _ => 0) (fun _ _ => "hello") doc ["title"]).fields.lookup key := by
  intro doc
  have injective : ∀ first ∈ ["title"], ∀ second ∈ ["title"],
      (fun _ => 0 : String → UInt64) first = (fun _ => 0 : String → UInt64) second →
        first = second := by
    simp
  have apart : ∀ target ∈ ["title"], ∀ other ∈ ["title"],
      target ≠ shadowKey (fun _ => 0 : String → UInt64) other := by
    simp only [List.mem_singleton, forall_eq]
    decide
  exact ⟨injective, apart, correctDocFields_idempotent injective apart⟩

end Spec

end LnxEngine
