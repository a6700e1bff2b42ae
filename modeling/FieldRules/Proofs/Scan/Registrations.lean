import FieldRules.Proofs.Scan.Findings
import FieldRules.Source.Parser.File

/-!
# Which names are registered

A scan knows the names that are literals and come first in a call of a registering
method.  Such a call counts wherever it stands: before the dot of another call,
among the arguments of one, or in any code inside items.  A call of another kind
counts for the code inside of it and for nothing else.
-/

namespace FieldRules

open Source (MethodCall Node methodCallsIn_eq_flatMap)

namespace Source.Node

/-- A registering method is called somewhere in the node, and the name is its first argument. -/
inductive Registers (config : ScanConfig) (name : Text) : Node → Prop where
  | call {method : Text} {receiver rest : List Node} (hmethod : method ∈ config.registerMethods) :
      Registers config name (.methodCall method receiver (.string name :: rest))
  | inReceiver {method : Text} {receiver arguments : List Node} {part : Node}
      (hpart : part ∈ receiver) (h : Registers config name part) :
      Registers config name (.methodCall method receiver arguments)
  | inArgument {method : Text} {receiver arguments : List Node} {part : Node}
      (hpart : part ∈ arguments) (h : Registers config name part) :
      Registers config name (.methodCall method receiver arguments)
  | inItem {kind : ItemKind} {attributes : List Attribute} {parts : List Node} {part : Node}
      (hpart : part ∈ parts) (h : Registers config name part) :
      Registers config name (.item kind attributes parts)
  | inMember {kind : MemberKind} {attributes : List Attribute} {parts : List Node} {part : Node}
      (hpart : part ∈ parts) (h : Registers config name part) :
      Registers config name (.member kind attributes parts)
  | inCode {parts : List Node} {part : Node}
      (hpart : part ∈ parts) (h : Registers config name part) :
      Registers config name (.code parts)

variable {config : ScanConfig} {name : Text} {node : Node}

/-- The node itself is a call that registers the name. -/
def RegistersItself (config : ScanConfig) (name : Text) (node : Node) : Prop :=
  ∃ call, node.methodCall? = some call ∧
    config.isRegisterMethod call.method = true ∧ call.firstLiteral? = some name

theorem registersItself_iff :
    node.RegistersItself config name ↔
      ∃ method receiver rest, method ∈ config.registerMethods ∧
        node = .methodCall method receiver (.string name :: rest) := by
  constructor
  · intro hitself
    obtain ⟨call, hcall, hmethod, hliteral⟩ := hitself
    cases node with
    | methodCall method receiver arguments =>
        obtain ⟨rest, harguments⟩ := MethodCall.firstLiteral?_eq_some_iff.mp hliteral
        cases hcall
        cases harguments
        exact ⟨method, receiver, rest, by simpa [ScanConfig.isRegisterMethod] using hmethod, rfl⟩
    | _ => contradiction
  · intro hcall
    obtain ⟨method, receiver, rest, hmethod, hnode⟩ := hcall
    rw [hnode]
    exact ⟨⟨method, .string name :: rest⟩, rfl,
      by simpa [ScanConfig.isRegisterMethod] using hmethod, rfl⟩

theorem registers_iff_itself_or_part :
    node.Registers config name ↔
      node.RegistersItself config name ∨ ∃ part ∈ node.parts, part.Registers config name := by
  rw [registersItself_iff]
  constructor
  · intro h
    cases h with
    | call hmethod => exact .inl ⟨_, _, _, hmethod, rfl⟩
    | inReceiver hpart h => exact .inr ⟨_, List.mem_append_left _ hpart, h⟩
    | inArgument hpart h => exact .inr ⟨_, List.mem_append_right _ hpart, h⟩
    | inItem hpart h => exact .inr ⟨_, hpart, h⟩
    | inMember hpart h => exact .inr ⟨_, hpart, h⟩
    | inCode hpart h => exact .inr ⟨_, hpart, h⟩
  · intro h
    cases h with
    | inl hown =>
        obtain ⟨method, receiver, rest, hmethod, hnode⟩ := hown
        rw [hnode]
        exact .call hmethod
    | inr hinside =>
        obtain ⟨part, hpart, h⟩ := hinside
        cases node with
        | item kind attributes parts => exact .inItem hpart h
        | member kind attributes parts => exact .inMember hpart h
        | methodCall method receiver arguments =>
            cases List.mem_append.mp hpart with
            | inl hreceiver => exact .inReceiver hreceiver h
            | inr hargument => exact .inArgument hargument h
        | string value => contradiction
        | code parts => exact .inCode hpart h

/-- The method calls of a node are its own, if it is one, and those of its parts. -/
theorem registers_iff_methodCalls :
    node.Registers config name ↔
      ∃ call ∈ node.methodCalls,
        config.isRegisterMethod call.method = true ∧ call.firstLiteral? = some name := by
  induction node using Node.of_parts with
  | step node ih =>
      rw [registers_iff_itself_or_part, Node.methodCalls_eq]
      constructor
      · intro h
        cases h with
        | inl hown =>
            obtain ⟨call, hcall, hregisters⟩ := hown
            refine ⟨call, List.mem_append_left _ ?_, hregisters⟩
            rw [hcall]
            exact List.mem_singleton_self call
        | inr hinside =>
            obtain ⟨part, hpart, h⟩ := hinside
            obtain ⟨call, hcall, hregisters⟩ := (ih part hpart).mp h
            exact ⟨call, List.mem_append_right _ (List.mem_flatMap.mpr ⟨part, hpart, hcall⟩),
              hregisters⟩
      · intro h
        obtain ⟨call, hcall, hregisters⟩ := h
        cases List.mem_append.mp hcall with
        | inl hown => exact .inl ⟨call, Option.mem_toList.mp hown, hregisters⟩
        | inr hinside =>
            obtain ⟨part, hpart, hcall⟩ := List.mem_flatMap.mp hinside
            exact .inr ⟨part, hpart, (ih part hpart).mpr ⟨call, hcall, hregisters⟩⟩

end Source.Node

theorem mem_registrations_iff {config : ScanConfig} {outline : Source.Outline} {name : Text} :
    name ∈ registrations config outline ↔
      ∃ node ∈ outline.nodes, node.Registers config name := by
  have hcalls : name ∈ registrations config outline ↔
      ∃ call ∈ outline.methodCalls,
        config.isRegisterMethod call.method = true ∧ call.firstLiteral? = some name := by
    simp only [registrations, List.mem_filterMap, List.mem_filter, and_assoc]
  rw [hcalls, Source.Outline.methodCalls, methodCallsIn_eq_flatMap]
  simp only [List.mem_flatMap, Source.Node.registers_iff_methodCalls]
  constructor
  · intro h
    obtain ⟨call, ⟨node, hnode, hcall⟩, hregisters⟩ := h
    exact ⟨node, hnode, call, hcall, hregisters⟩
  · intro h
    obtain ⟨node, hnode, call, hcall, hregisters⟩ := h
    exact ⟨call, ⟨node, hnode, hcall⟩, hregisters⟩

/-! ## Calls that register nothing -/

namespace Source

/-- The call registers a name: the method does so, and the first argument is a literal. -/
def MethodCall.isRegistration (config : ScanConfig) (call : MethodCall) : Bool :=
  config.isRegisterMethod call.method && call.firstLiteral?.isSome

mutual

/-- The node with plain code in place of every method call that registers no name. -/
def Node.onlyRegistrations (config : ScanConfig) : Node → Node
  | .item kind attributes parts => .item kind attributes (onlyRegistrationsIn config parts)
  | .member kind attributes parts => .member kind attributes (onlyRegistrationsIn config parts)
  | .methodCall method receiver arguments =>
    if MethodCall.isRegistration config ⟨method, arguments⟩ then
      .methodCall method (onlyRegistrationsIn config receiver)
        (onlyRegistrationsIn config arguments)
    else .code (onlyRegistrationsIn config receiver ++ onlyRegistrationsIn config arguments)
  | .string value => .string value
  | .code parts => .code (onlyRegistrationsIn config parts)

def onlyRegistrationsIn (config : ScanConfig) : List Node → List Node
  | [] => []
  | node :: rest => node.onlyRegistrations config :: onlyRegistrationsIn config rest

end

variable (config : ScanConfig)

theorem onlyRegistrationsIn_eq_map (nodes : List Node) :
    onlyRegistrationsIn config nodes = nodes.map (Node.onlyRegistrations config) := by
  induction nodes with
  | nil => rfl
  | cons node rest ih => rw [onlyRegistrationsIn, ih, List.map_cons]

namespace Node

theorem parts_onlyRegistrations (node : Node) :
    (node.onlyRegistrations config).parts = node.parts.map (onlyRegistrations config) := by
  cases node with
  | methodCall method receiver arguments =>
      rw [onlyRegistrations]
      split
      · simp only [parts, onlyRegistrationsIn_eq_map, List.map_append]
      · simp only [parts, onlyRegistrationsIn_eq_map, List.map_append]
  | _ => simp [onlyRegistrations, parts, onlyRegistrationsIn_eq_map]

/-- A literal stays, and nothing becomes one. -/
theorem onlyRegistrations_eq_string_iff {node : Node} {name : Text} :
    node.onlyRegistrations config = .string name ↔ node = .string name := by
  cases node with
  | methodCall method receiver arguments =>
      rw [onlyRegistrations]
      split <;> simp
  | _ => simp [onlyRegistrations]

theorem firstLiteral?_onlyRegistrations (method : Text) (arguments : List Node) :
    MethodCall.firstLiteral? ⟨method, onlyRegistrationsIn config arguments⟩ =
      MethodCall.firstLiteral? ⟨method, arguments⟩ := by
  apply Option.ext
  intro name
  rw [MethodCall.firstLiteral?_eq_some_iff, MethodCall.firstLiteral?_eq_some_iff]
  cases arguments with
  | nil => simp [onlyRegistrationsIn]
  | cons first rest => simp [onlyRegistrationsIn, onlyRegistrations_eq_string_iff]

theorem registersItself_onlyRegistrations {node : Node} {name : Text} :
    (node.onlyRegistrations config).RegistersItself config name ↔ node.RegistersItself config name := by
  cases node with
  | methodCall method receiver arguments =>
      have hliteral := firstLiteral?_onlyRegistrations config method arguments
      rw [onlyRegistrations]
      split
      · next hregisters => simp [RegistersItself, methodCall?, hliteral]
      · next hother =>
          refine iff_of_false (by simp [RegistersItself, methodCall?]) ?_
          intro hitself
          obtain ⟨call, hcall, hmethod, hname⟩ := hitself
          cases hcall
          exact hother (by simp [MethodCall.isRegistration, hmethod, hname])
  | _ => simp [onlyRegistrations, RegistersItself, methodCall?]

theorem registers_onlyRegistrations {node : Node} {name : Text} :
    (node.onlyRegistrations config).Registers config name ↔ node.Registers config name := by
  induction node using Node.of_parts with
  | step node ih =>
      rw [registers_iff_itself_or_part, registers_iff_itself_or_part,
        registersItself_onlyRegistrations, parts_onlyRegistrations]
      refine or_congr_right ?_
      constructor
      · intro h
        obtain ⟨_, hmem, h⟩ := h
        obtain ⟨part, hpart, rfl⟩ := List.mem_map.mp hmem
        exact ⟨part, hpart, (ih part hpart).mp h⟩
      · intro h
        obtain ⟨part, hpart, h⟩ := h
        exact ⟨_, List.mem_map_of_mem hpart, (ih part hpart).mpr h⟩

end Node
end Source

def ParsedFile.onlyRegistrations (config : ScanConfig) (file : ParsedFile) : ParsedFile :=
  { file with outline := ⟨Source.onlyRegistrationsIn config file.outline.nodes⟩ }

theorem mem_registrations_onlyRegistrations
    {config : ScanConfig} {file : ParsedFile} {name : Text} :
    name ∈ registrations config (file.onlyRegistrations config).outline ↔
      name ∈ registrations config file.outline := by
  rw [mem_registrations_iff, mem_registrations_iff, ParsedFile.onlyRegistrations,
    Source.onlyRegistrationsIn_eq_map]
  simp only [List.mem_map, exists_exists_and_eq_and, Source.Node.registers_onlyRegistrations]

/-! ## The names of files -/

section Files

variable (config : ScanConfig) (files : List ParsedFile)

theorem mem_customNames_iff_registrations {name : Text} :
    name ∈ customNames config files ↔
      ∃ file ∈ files, name ∈ registrations config file.outline := by
  rw [customNames, Text.mem_nameSet, List.mem_flatMap]

theorem customNames_eq_union :
    customNames config files =
      Text.nameSet (files.flatMap fun file => customNames config [file]) := by
  apply Text.nameSet_eq_of_mem_iff
  intro name
  simp only [List.mem_flatMap, mem_customNames_iff_registrations, List.mem_singleton,
    exists_eq_left]

theorem customNames_onlyRegistrations :
    customNames config (files.map (ParsedFile.onlyRegistrations config)) =
      customNames config files := by
  apply Text.nameSet_eq_of_mem_iff
  intro name
  simp only [List.mem_flatMap, List.mem_map, exists_exists_and_eq_and,
    mem_registrations_onlyRegistrations]

end Files

/-- The names that files register are those of the registering calls in them, at any depth, in
order and each once.  Every file adds its own, and a call that registers none is like plain code. -/
theorem customNames_exact (config : ScanConfig) (files : List ParsedFile) :
    (∀ name, name ∈ customNames config files ↔
        ∃ file ∈ files, ∃ node ∈ file.outline.nodes, node.Registers config name) ∧
      Text.Ascending (customNames config files) ∧
      customNames config files =
        Text.nameSet (files.flatMap fun file => customNames config [file]) ∧
      customNames config (files.map (ParsedFile.onlyRegistrations config)) =
        customNames config files := by
  refine ⟨?_, Text.nameSet_ascending _, customNames_eq_union config files,
    customNames_onlyRegistrations config files⟩
  intro name
  simp only [mem_customNames_iff_registrations, mem_registrations_iff]

/-- Calls in a chain, in arguments and in the value of an attribute register, the call of a
function does not. -/
example :
    let source : Text :=
      ("#[doc = v.register(\"c\", check)] " ++
        "const A: u8 = v.register(\"b\").add(register(\"no\"), |v| v.register(\"a\"));").toList
    (Source.Outline.parse source).toOption.map (fun outline =>
        customNames .standard [⟨⟨"rules.rs".toList⟩, outline⟩]) =
      some ["a".toList, "b".toList, "c".toList] := by
  decide +kernel

end FieldRules
