import FieldRules.Source.TestCode

/-!
# What conditions say about a build

A condition holds or does not in a build, which sets some options.  An item is taken for
test code because of a condition only if that condition fails in every build without the
option for tests, so nothing is lost that could be built without it.  The converse
holds for conjunctions: of these, all that can hold only with that option are found.
-/

namespace FieldRules.Source

/-- What a build sets: options by their name alone, as it is written, and options with a value.  What
it makes of a condition that cannot be read is left open. -/
structure Build where
  isSet : Text → Bool
  hasValue : Text → Text → Bool
  acceptsUnreadable : Bool

mutual

def Condition.holds (build : Build) : Condition → Bool
  | .option name => build.isSet name
  | .keyValue name value => build.hasValue name value
  | .all parts => allHold build parts
  | .any parts => anyHolds build parts
  | .not part => !part.holds build
  | .unreadable => build.acceptsUnreadable

def allHold (build : Build) : List Condition → Bool
  | [] => true
  | part :: rest => part.holds build && allHold build rest

def anyHolds (build : Build) : List Condition → Bool
  | [] => false
  | part :: rest => part.holds build || anyHolds build rest

end

/-- The conditions under which an item is built, which are all that it carries and that can be
read. -/
def conditionsOf (attributes : List Attribute) : List Condition :=
  (attributes.filter fun attr => attr.name = some "cfg".toList).filterMap Attribute.condition

/-- One of the conditions of an item is the reason why it is taken for test code. -/
def MarkedByCondition (attributes : List Attribute) : Prop :=
  ∃ attr ∈ attributes, attr.name = some "cfg".toList ∧ attr.marksTest = true

/-- The condition is made from options by conjunctions only. -/
inductive Condition.Conjunctive : Condition → Prop where
  | option (name : Text) : Conjunctive (.option name)
  | keyValue (name value : Text) : Conjunctive (.keyValue name value)
  | all {parts : List Condition} (h : ∀ part ∈ parts, Conjunctive part) : Conjunctive (.all parts)

/-! ## Lists of conditions -/

theorem anyRequiresTest_eq_true_iff {parts : List Condition} :
    anyRequiresTest parts = true ↔ ∃ part ∈ parts, part.requiresTest = true := by
  induction parts with
  | nil => simp [anyRequiresTest]
  | cons part rest ih => simp [anyRequiresTest, ih]

theorem allHold_eq_true_iff {build : Build} {parts : List Condition} :
    allHold build parts = true ↔ ∀ part ∈ parts, part.holds build = true := by
  induction parts with
  | nil => simp [allHold]
  | cons part rest ih => simp [allHold, ih]

/-! ## Conditions that ask for tests -/

section Sound

variable {build : Build}

mutual

theorem Condition.isSet_of_holds :
    ∀ condition : Condition, condition.requiresTest = true → condition.holds build = true →
      build.isSet "test".toList = true
  | .option name, hrequires, hholds => by
      rw [Condition.requiresTest, beq_iff_eq] at hrequires
      rwa [Condition.holds, hrequires] at hholds
  | .all parts, hrequires, hholds => by
      rw [Condition.requiresTest] at hrequires
      rw [Condition.holds] at hholds
      exact isSet_of_allHold parts hrequires hholds
  | .keyValue _ _, hrequires, _ | .any _, hrequires, _ | .not _, hrequires, _
  | .unreadable, hrequires, _ => by
      contradiction

theorem isSet_of_allHold :
    ∀ parts : List Condition, anyRequiresTest parts = true → allHold build parts = true →
      build.isSet "test".toList = true
  | [], hrequires, _ => by contradiction
  | part :: rest, hrequires, hholds => by
      rw [anyRequiresTest, Bool.or_eq_true] at hrequires
      rw [allHold, Bool.and_eq_true] at hholds
      rcases hrequires with hpart | hrest
      · exact part.isSet_of_holds hpart hholds.1
      · exact isSet_of_allHold rest hrest hholds.2

end

end Sound

/-- The build that sets everything but the option for tests. -/
def Build.production : Build := ⟨fun name => name != "test".toList, fun _ _ => true, true⟩

theorem Condition.Conjunctive.holds_production
    {condition : Condition} (hconjunctive : condition.Conjunctive)
    (hrequires : condition.requiresTest = false) :
    condition.holds .production = true := by
  induction hconjunctive with
  | option name =>
      simpa [holds, Build.production, requiresTest] using hrequires
  | keyValue name value => rfl
  | all _ ih =>
      rw [requiresTest, ← Bool.not_eq_true, anyRequiresTest_eq_true_iff] at hrequires
      rw [holds, allHold_eq_true_iff]
      intro part hpart
      apply ih part hpart
      rw [← Bool.not_eq_true]
      intro htest
      exact hrequires ⟨part, hpart, htest⟩

theorem Condition.Conjunctive.requiresTest_eq_true_iff
    {condition : Condition} (hconjunctive : condition.Conjunctive) :
    condition.requiresTest = true ↔
      ∀ build : Build, condition.holds build = true → build.isSet "test".toList = true := by
  constructor
  · intro hrequires build hholds
    exact condition.isSet_of_holds hrequires hholds
  · intro hset
    cases hrequires : condition.requiresTest with
    | true => rfl
    | false =>
        have htest := hset .production (hconjunctive.holds_production hrequires)
        contradiction

/-! ## Attributes -/

theorem Attribute.marksTest_eq_true_iff {attr : Attribute} :
    attr.marksTest = true ↔
      attr.name = some "test".toList ∨
        attr.name = some "cfg".toList ∧
          ∃ condition, attr.condition = some condition ∧ condition.requiresTest = true := by
  simp only [marksTest, Bool.or_eq_true, Bool.and_eq_true, beq_iff_eq, Option.any_eq_true]

theorem marksTest_eq_true_iff {attributes : List Attribute} :
    marksTest attributes = true ↔
      (∃ attr ∈ attributes, attr.name = some "test".toList) ∨ MarkedByCondition attributes := by
  simp only [marksTest, List.any_eq_true]
  constructor
  · rintro ⟨attr, hattr, hmarks⟩
    rcases Attribute.marksTest_eq_true_iff.mp hmarks with htest | ⟨hcfg, _⟩
    · exact .inl ⟨attr, hattr, htest⟩
    · exact .inr ⟨attr, hattr, hcfg, hmarks⟩
  · rintro (⟨attr, hattr, htest⟩ | ⟨attr, hattr, _, hmarks⟩)
    · exact ⟨attr, hattr, Attribute.marksTest_eq_true_iff.mpr (.inl htest)⟩
    · exact ⟨attr, hattr, hmarks⟩

theorem mem_conditionsOf_iff {attributes : List Attribute} {condition : Condition} :
    condition ∈ conditionsOf attributes ↔
      ∃ attr ∈ attributes, attr.name = some "cfg".toList ∧ attr.condition = some condition := by
  simp only [conditionsOf, List.mem_filterMap, List.mem_filter, decide_eq_true_eq, and_assoc]

theorem MarkedByCondition.exists_requiresTest
    {attributes : List Attribute} (hmarked : MarkedByCondition attributes) :
    ∃ condition ∈ conditionsOf attributes, condition.requiresTest = true := by
  obtain ⟨attr, hattr, hcfg, hmarks⟩ := hmarked
  rcases Attribute.marksTest_eq_true_iff.mp hmarks with htest | ⟨_, condition, hread, hrequires⟩
  · rw [hcfg] at htest
    contradiction
  · exact ⟨condition, mem_conditionsOf_iff.mpr ⟨attr, hattr, hcfg, hread⟩, hrequires⟩

/-- What is test code is so by name or because of one of its conditions, and such a condition fails in
every build without the option for tests, whatever else the build sets.  Of the conjunctions, those
that hold only with the option for tests are the ones that are found. -/
theorem marksTest_exact :
    (∀ attributes : List Attribute,
      (marksTest attributes = true ↔
        (∃ attr ∈ attributes, attr.name = some "test".toList) ∨ MarkedByCondition attributes) ∧
      (MarkedByCondition attributes →
        ∃ condition ∈ conditionsOf attributes, ∀ build : Build,
          build.isSet "test".toList = false → condition.holds build = false)) ∧
    ∀ condition : Condition, condition.Conjunctive →
      (condition.requiresTest = true ↔
        ∀ build : Build, condition.holds build = true → build.isSet "test".toList = true) := by
  refine ⟨?_, ?_⟩
  · intro attributes
    refine ⟨marksTest_eq_true_iff, ?_⟩
    intro hmarked
    obtain ⟨condition, hcondition, hrequires⟩ := hmarked.exists_requiresTest
    refine ⟨condition, hcondition, ?_⟩
    intro build hunset
    cases hholds : condition.holds build with
    | false => rfl
    | true =>
        have hset := condition.isSet_of_holds hrequires hholds
        rw [hunset] at hset
        contradiction
  · intro condition hconjunctive
    exact hconjunctive.requiresTest_eq_true_iff

/-- A condition that asks for tests two levels down, beside a denial and a part that cannot be read,
and a second condition, which does not ask for tests. -/
theorem marksTest_exact_nested :
    let nested : Condition := .all [.option "unix".toList, .keyValue "feature".toList "\"x\"".toList]
    let inner : Condition := .all [nested, .all [.option "test".toList], .option "debug".toList]
    let mixed : Condition := .all [.not (.option "test".toList), .all [.unreadable, inner]]
    let trees : List Tree := []
    let attributes : List Attribute :=
      [⟨some "doc".toList, .value, none⟩,
        ⟨some "cfg".toList, .list trees, some (.any [.option "test".toList, nested])⟩,
        ⟨some "cfg".toList, .list trees, some mixed⟩]
    marksTest attributes = true ∧
      (∃ condition ∈ conditionsOf attributes, ∀ build : Build,
        build.isSet "test".toList = false → condition.holds build = false) ∧
      (∀ build : Build, inner.holds build = true → build.isSet "test".toList = true) ∧
      ¬∀ build : Build, nested.holds build = true → build.isSet "test".toList = true := by
  intro nested inner mixed trees attributes
  obtain ⟨hattributes, hconditions⟩ := marksTest_exact
  have hmarked : MarkedByCondition attributes := by
    refine ⟨⟨some "cfg".toList, .list trees, some mixed⟩, ?_, rfl, by decide⟩
    exact List.mem_cons_of_mem _ (List.mem_cons_of_mem _ List.mem_cons_self)
  have hnested : nested.Conjunctive := by
    refine .all ?_
    rw [List.forall_mem_cons, List.forall_mem_singleton]
    exact ⟨.option _, .keyValue _ _⟩
  have hinner : inner.Conjunctive := by
    refine .all ?_
    rw [List.forall_mem_cons, List.forall_mem_cons, List.forall_mem_singleton]
    refine ⟨hnested, .all ?_, .option _⟩
    rw [List.forall_mem_singleton]
    exact .option _
  refine ⟨(hattributes attributes).1.mpr (.inr hmarked), (hattributes attributes).2 hmarked,
    (hconditions inner hinner).mp (by decide), ?_⟩
  rw [← hconditions nested hnested]
  decide

end FieldRules.Source
