import FieldRules.Proofs.Enumeration
import FieldRules.Source.Contents

/-!
# Places in an outline

A node of an outline is found by its place: the positions of the parts that lead to
it.  Each place holds one node, so nodes can be counted by their places.  The main
statements are that the structs and the method calls of an outline are listed by
place, each of them once.
-/

namespace FieldRules.Source

namespace Node

/-- What a node is made of.  The receiver of a method call comes before the arguments. -/
def parts : Node → List Node
  | .item _ _ parts => parts
  | .member _ _ parts => parts
  | .methodCall _ receiver arguments => receiver ++ arguments
  | .string _ => []
  | .code parts => parts

def at? (node : Node) : List Nat → Option Node
  | [] => some node
  | position :: rest => node.parts[position]?.bind fun part => part.at? rest

end Node

/-- The node at a place of an outline, whose own nodes are at places of length one. -/
def Outline.at? (outline : Outline) (place : List Nat) : Option Node :=
  (Node.code outline.nodes).at? place

/-! ## All nodes by their places -/

mutual

/-- The node itself and all nodes inside, with their places. -/
def Node.places : Node → List (List Nat × Node)
  | .item kind attributes parts => ([], .item kind attributes parts) :: placesFrom 0 parts
  | .member kind attributes parts => ([], .member kind attributes parts) :: placesFrom 0 parts
  | .methodCall method receiver arguments =>
    ([], .methodCall method receiver arguments) ::
      (placesFrom 0 receiver ++ placesFrom receiver.length arguments)
  | .string value => [([], .string value)]
  | .code parts => ([], .code parts) :: placesFrom 0 parts

/-- The nodes in parts, of which the first is at the given position. -/
def placesFrom (start : Nat) : List Node → List (List Nat × Node)
  | [] => []
  | node :: rest =>
    node.places.map (fun entry => (start :: entry.1, entry.2)) ++ placesFrom (start + 1) rest

end

theorem placesFrom_append (start : Nat) (first second : List Node) :
    placesFrom start (first ++ second) =
      placesFrom start first ++ placesFrom (start + first.length) second := by
  induction first generalizing start with
  | nil => simp [placesFrom]
  | cons node rest ih =>
      simp only [List.cons_append, placesFrom, ih, List.length_cons, List.append_assoc]
      rw [Nat.add_right_comm, Nat.add_assoc]

theorem Node.places_eq (node : Node) :
    node.places = ([], node) :: placesFrom 0 node.parts := by
  cases node with
  | methodCall method receiver arguments =>
      simp [Node.places, Node.parts, placesFrom_append]
  | string value => simp [Node.places, Node.parts, placesFrom]
  | _ => simp [Node.places, Node.parts]

/-! ## Every place is listed once -/

mutual

/-- What holds of a node if it holds of all its parts, holds of every node. -/
theorem Node.of_parts
    {motive : Node → Prop}
    (step : ∀ node, (∀ part ∈ node.parts, motive part) → motive node) :
    ∀ node, motive node
  | .item kind attributes parts => step (.item kind attributes parts) (of_partsIn step parts)
  | .member kind attributes parts => step (.member kind attributes parts) (of_partsIn step parts)
  | .methodCall method receiver arguments => by
      apply step
      intro part hpart
      rcases List.mem_append.mp hpart with hreceiver | hargument
      · exact of_partsIn step receiver part hreceiver
      · exact of_partsIn step arguments part hargument
  | .string value => by
      apply step
      intro part hpart
      contradiction
  | .code parts => step (.code parts) (of_partsIn step parts)

theorem of_partsIn
    {motive : Node → Prop}
    (step : ∀ node, (∀ part ∈ node.parts, motive part) → motive node) :
    ∀ (nodes : List Node), ∀ node ∈ nodes, motive node
  | [], node, hnode => by contradiction
  | first :: rest, node, hnode => by
      rcases List.mem_cons.mp hnode with heq | hrest
      · rw [heq]
        exact Node.of_parts step first
      · exact of_partsIn step rest node hrest

end

theorem mem_placesFrom_iff
    {nodes : List Node}
    (hnodes : ∀ node ∈ nodes, ∀ place found,
      (place, found) ∈ node.places ↔ node.at? place = some found)
    (start : Nat) (place : List Nat) (found : Node) :
    (place, found) ∈ placesFrom start nodes ↔
      ∃ position rest, place = (start + position) :: rest ∧
        (nodes[position]?.bind fun part => part.at? rest) = some found := by
  induction nodes generalizing start with
  | nil => simp [placesFrom]
  | cons node nodes ih =>
      have hfirst := hnodes node List.mem_cons_self
      have hrest := ih fun other hother => hnodes other (List.mem_cons_of_mem node hother)
      rw [placesFrom, List.mem_append, hrest (start + 1), List.mem_map]
      constructor
      · rintro (⟨⟨inner, part⟩, hentry, hpair⟩ | ⟨position, rest, rfl, hat⟩)
        · cases hpair
          exact ⟨0, inner, rfl, (hfirst inner _).mp hentry⟩
        · exact ⟨position + 1, rest, by rw [Nat.add_assoc, Nat.add_comm 1], hat⟩
      · rintro ⟨position, rest, rfl, hat⟩
        cases position with
        | zero => exact .inl ⟨(rest, found), (hfirst rest found).mpr hat, rfl⟩
        | succ position =>
            exact .inr ⟨position, rest, by rw [Nat.add_assoc, Nat.add_comm 1], hat⟩

theorem Node.mem_places_iff (node : Node) :
    ∀ place found, (place, found) ∈ node.places ↔ node.at? place = some found := by
  induction node using Node.of_parts with
  | step node ih =>
      intro place found
      rw [Node.places_eq, List.mem_cons, mem_placesFrom_iff ih]
      cases place with
      | nil => simp [Node.at?, eq_comm]
      | cons position rest => simp [Node.at?]

theorem nodup_placesFrom
    {nodes : List Node} (hnodes : ∀ node ∈ nodes, (node.places.map Prod.fst).Nodup)
    (start : Nat) :
    ((placesFrom start nodes).map Prod.fst).Nodup ∧
      ∀ place ∈ (placesFrom start nodes).map Prod.fst,
        ∃ position rest, place = position :: rest ∧ start ≤ position := by
  induction nodes generalizing start with
  | nil => simp [placesFrom]
  | cons node nodes ih =>
      obtain ⟨hnodup, hlater⟩ := ih
        (fun other hother => hnodes other (List.mem_cons_of_mem node hother)) (start + 1)
      have hkeys : (node.places.map fun entry => (start :: entry.1, entry.2)).map Prod.fst =
          (node.places.map Prod.fst).map (List.cons start) := by
        rw [List.map_map, List.map_map]
        rfl
      rw [placesFrom, List.map_append, hkeys]
      constructor
      · refine List.Nodup.append ?_ hnodup ?_
        · exact (hnodes node List.mem_cons_self).map List.cons_injective
        · intro place hfirst hrest
          obtain ⟨inner, _, rfl⟩ := List.mem_map.mp hfirst
          obtain ⟨position, rest, heq, hle⟩ := hlater _ hrest
          rw [List.cons.injEq] at heq
          omega
      · intro place hplace
        rcases List.mem_append.mp hplace with hfirst | hrest
        · obtain ⟨inner, _, rfl⟩ := List.mem_map.mp hfirst
          exact ⟨start, inner, rfl, Nat.le_refl start⟩
        · obtain ⟨position, rest, heq, hle⟩ := hlater _ hrest
          exact ⟨position, rest, heq, by omega⟩

theorem Node.places_enumerate (node : Node) :
    Enumerates node.places fun place found => node.at? place = some found := by
  refine ⟨?_, node.mem_places_iff⟩
  induction node using Node.of_parts with
  | step node ih =>
      obtain ⟨hnodup, hlonger⟩ := nodup_placesFrom ih 0
      rw [Node.places_eq, List.map_cons, List.nodup_cons]
      refine ⟨?_, hnodup⟩
      intro hmem
      obtain ⟨_, _, heq, _⟩ := hlonger _ hmem
      contradiction

/-! ## Structs and method calls -/

section Collecting

variable {α : Type} {select : Node → Option α} {collect : Node → List α}

theorem flatMap_eq_filterMap_placesFrom
    {nodes : List Node}
    (hnodes : ∀ node ∈ nodes, collect node = node.places.filterMap fun entry => select entry.2)
    (start : Nat) :
    nodes.flatMap collect = (placesFrom start nodes).filterMap fun entry => select entry.2 := by
  induction nodes generalizing start with
  | nil => rfl
  | cons node nodes ih =>
      have hrest := ih (fun other hother => hnodes other (List.mem_cons_of_mem node hother))
      rw [List.flatMap_cons, placesFrom, List.filterMap_append, ← hrest (start + 1),
        hnodes node List.mem_cons_self, List.filterMap_map]
      rfl

/-- What is selected of a node and collected from its parts is selected of all places. -/
theorem collect_eq_filterMap_places
    (hcollect : ∀ node, collect node = (select node).toList ++ node.parts.flatMap collect)
    (node : Node) :
    collect node = node.places.filterMap fun entry => select entry.2 := by
  induction node using Node.of_parts with
  | step node ih =>
      rw [hcollect, flatMap_eq_filterMap_placesFrom ih 0, Node.places_eq]
      cases hselect : select node with
      | none => simp [hselect]
      | some value => simp [hselect]

end Collecting

def Node.struct? : Node → Option StructDecl
  | .item (.struct decl) _ _ => some decl
  | _ => none

def Node.methodCall? : Node → Option MethodCall
  | .methodCall method _ arguments => some ⟨method, arguments⟩
  | _ => none

theorem structsIn_eq_flatMap (nodes : List Node) : structsIn nodes = nodes.flatMap Node.structs := by
  induction nodes with
  | nil => rfl
  | cons node rest ih => rw [structsIn, ih, List.flatMap_cons]

theorem methodCallsIn_eq_flatMap (nodes : List Node) :
    methodCallsIn nodes = nodes.flatMap Node.methodCalls := by
  induction nodes with
  | nil => rfl
  | cons node rest ih => rw [methodCallsIn, ih, List.flatMap_cons]

theorem Node.structs_eq (node : Node) :
    node.structs = node.struct?.toList ++ node.parts.flatMap Node.structs := by
  cases node with
  | item kind attributes parts =>
      cases kind <;> simp [structs, struct?, Node.parts, structsIn_eq_flatMap]
  | _ => simp [structs, struct?, Node.parts, structsIn_eq_flatMap]

theorem Node.methodCalls_eq (node : Node) :
    node.methodCalls = node.methodCall?.toList ++ node.parts.flatMap Node.methodCalls := by
  cases node <;> simp [methodCalls, methodCall?, Node.parts, methodCallsIn_eq_flatMap]

theorem Outline.structs_eq_filterMap (outline : Outline) :
    outline.structs =
      (Node.code outline.nodes).places.filterMap fun entry => entry.2.struct? :=
  collect_eq_filterMap_places Node.structs_eq (.code outline.nodes)

theorem Outline.methodCalls_eq_filterMap (outline : Outline) :
    outline.methodCalls =
      (Node.code outline.nodes).places.filterMap fun entry => entry.2.methodCall? :=
  collect_eq_filterMap_places Node.methodCalls_eq (.code outline.nodes)

def Outline.structPlaces (outline : Outline) : List (List Nat × StructDecl) :=
  (Node.code outline.nodes).places.filterMap fun entry =>
    entry.2.struct?.map fun decl => (entry.1, decl)

theorem Outline.structPlaces_enumerate (outline : Outline) :
    Enumerates outline.structPlaces fun place decl =>
      ∃ attributes parts, outline.at? place = some (.item (.struct decl) attributes parts) := by
  refine ((Node.code outline.nodes).places_enumerate.filterMap Node.struct?).congr ?_
  intro place decl
  constructor
  · rintro ⟨node, hat, hstruct⟩
    cases node with
    | item kind attributes parts =>
        cases kind <;> simp only [Node.struct?, Option.some.injEq, reduceCtorEq] at hstruct
        subst hstruct
        exact ⟨attributes, parts, hat⟩
    | _ => contradiction
  · rintro ⟨attributes, parts, hat⟩
    exact ⟨_, hat, rfl⟩

theorem Outline.map_snd_structPlaces (outline : Outline) :
    outline.structPlaces.map Prod.snd = outline.structs := by
  rw [structs_eq_filterMap, structPlaces, List.map_filterMap]
  simp [Function.comp_def]

/-- The method calls of an outline are those at its places. -/
theorem Outline.mem_methodCalls_iff {outline : Outline} {call : MethodCall} :
    call ∈ outline.methodCalls ↔
      ∃ place receiver, outline.at? place =
        some (.methodCall call.method receiver call.arguments) := by
  rw [methodCalls_eq_filterMap, List.mem_filterMap]
  constructor
  · rintro ⟨⟨place, node⟩, hmem, hcall⟩
    have hat := ((Node.code outline.nodes).mem_places_iff place node).mp hmem
    cases node with
    | methodCall method receiver arguments =>
        cases hcall
        exact ⟨place, receiver, hat⟩
    | _ => contradiction
  · rintro ⟨place, receiver, hat⟩
    exact ⟨(place, _), ((Node.code outline.nodes).mem_places_iff place _).mpr hat, rfl⟩

end FieldRules.Source
