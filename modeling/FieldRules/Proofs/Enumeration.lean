import Mathlib.Data.List.Nodup

/-!
# Enumerations

A list of values with keys enumerates a relation between keys and values if it has
exactly the related pairs, and no key twice.  It then says of each value not only
that it occurs but how often.  Enumerations are built the way in which nested data
are walked through: by position in a list, by selection, and by going on from every
value to those inside of it.
-/

namespace FieldRules

variable {κ ν α β : Type}

/-- The list holds exactly the related pairs, and no key twice. -/
structure Enumerates (entries : List (κ × α)) (related : κ → α → Prop) : Prop where
  nodup : (entries.map Prod.fst).Nodup
  mem_iff : ∀ key value, (key, value) ∈ entries ↔ related key value

/-- The members of a list with their positions as keys. -/
def byPosition (list : List α) : List (Nat × α) := list.zipIdx.map Prod.swap

/-- The values inside of others, with the keys of both. -/
def nest (entries : List (κ × α)) (inside : κ → α → List (ν × β)) : List ((κ × ν) × β) :=
  entries.flatMap fun entry =>
    (inside entry.1 entry.2).map fun inner => ((entry.1, inner.1), inner.2)

theorem map_snd_byPosition (list : List α) : (byPosition list).map Prod.snd = list := by
  rw [byPosition, List.map_map]
  exact List.zipIdx_map_fst 0 list

theorem map_snd_nest (entries : List (κ × α)) (inside : κ → α → List (ν × β)) :
    (nest entries inside).map Prod.snd =
      entries.flatMap fun entry => (inside entry.1 entry.2).map Prod.snd := by
  rw [nest, List.map_flatMap]
  simp only [List.map_map]
  rfl

theorem map_snd_nest_of
    {inside : κ → α → List (ν × β)} (content : α → List β)
    (hcontent : ∀ key value, (inside key value).map Prod.snd = content value)
    (entries : List (κ × α)) :
    (nest entries inside).map Prod.snd = (entries.map Prod.snd).flatMap content := by
  rw [map_snd_nest, List.flatMap_map]
  simp only [hcontent]

theorem map_snd_map (entries : List (κ × α)) (make : α → β) :
    (entries.map fun entry => (entry.1, make entry.2)).map Prod.snd =
      (entries.map Prod.snd).map make := by
  rw [List.map_map, List.map_map]
  rfl

theorem map_snd_filter (entries : List (κ × α)) (keep : α → Bool) :
    (entries.filter fun entry => keep entry.2).map Prod.snd =
      (entries.map Prod.snd).filter keep := by
  rw [List.filter_map]
  rfl

namespace Enumerates

variable {entries : List (κ × α)} {related : κ → α → Prop}

theorem congr
    {other : κ → α → Prop} (h : Enumerates entries related)
    (hsame : ∀ key value, related key value ↔ other key value) :
    Enumerates entries other :=
  ⟨h.nodup, fun key value => (h.mem_iff key value).trans (hsame key value)⟩

theorem singleton (key : κ) (value : α) :
    Enumerates [(key, value)] fun other found => other = key ∧ found = value := by
  constructor
  · simp
  · simp

theorem positions (list : List α) :
    Enumerates (byPosition list) fun position value => list[position]? = some value := by
  constructor
  · have hkeys : (byPosition list).map Prod.fst = List.range' 0 list.length := by
      rw [byPosition, List.map_map, ← List.zipIdx_map_snd]
      rfl
    rw [hkeys]
    exact List.nodup_range'
  · intro position value
    rw [← List.mk_mem_zipIdx_iff_getElem?, byPosition, List.mem_map]
    constructor
    · rintro ⟨⟨other, index⟩, hentry, hswap⟩
      cases hswap
      exact hentry
    · intro hmem
      exact ⟨_, hmem, rfl⟩

theorem map (h : Enumerates entries related) (make : α → β) :
    Enumerates (entries.map fun entry => (entry.1, make entry.2))
      fun key value => ∃ outer, related key outer ∧ make outer = value := by
  constructor
  · rw [List.map_map]
    exact h.nodup
  · intro key value
    rw [List.mem_map]
    constructor
    · rintro ⟨⟨other, outer⟩, hentry, hpair⟩
      cases hpair
      exact ⟨outer, (h.mem_iff _ _).mp hentry, rfl⟩
    · rintro ⟨outer, hrelated, rfl⟩
      exact ⟨(key, outer), (h.mem_iff _ _).mpr hrelated, rfl⟩

theorem keys_filterMap_sublist (entries : List (κ × α)) (select : α → Option β) :
    ((entries.filterMap fun entry =>
      (select entry.2).map fun value => (entry.1, value)).map Prod.fst).Sublist
        (entries.map Prod.fst) := by
  induction entries with
  | nil => exact List.Sublist.slnil
  | cons first rest ih =>
      cases hselect : select first.2 with
      | none =>
          rw [List.filterMap_cons_none (by simp [hselect]), List.map_cons]
          exact ih.cons first.1
      | some value =>
          rw [List.filterMap_cons_some (by simp only [hselect, Option.map_some]; rfl),
            List.map_cons, List.map_cons]
          exact ih.cons_cons first.1

/-- The values that are made of those with the same keys, where this is possible. -/
theorem filterMap (h : Enumerates entries related) (select : α → Option β) :
    Enumerates (entries.filterMap fun entry => (select entry.2).map fun value => (entry.1, value))
      fun key value => ∃ outer, related key outer ∧ select outer = some value := by
  constructor
  · exact h.nodup.sublist (keys_filterMap_sublist entries select)
  · intro key value
    rw [List.mem_filterMap]
    constructor
    · rintro ⟨⟨other, outer⟩, hentry, hmap⟩
      obtain ⟨found, hselect, hpair⟩ := Option.map_eq_some_iff.mp hmap
      cases hpair
      exact ⟨outer, (h.mem_iff _ _).mp hentry, hselect⟩
    · rintro ⟨outer, hrelated, hselect⟩
      exact ⟨(key, outer), (h.mem_iff _ _).mpr hrelated, by rw [hselect]; rfl⟩

theorem filter (h : Enumerates entries related) (keep : α → Bool) :
    Enumerates (entries.filter fun entry => keep entry.2)
      fun key value => related key value ∧ keep value = true := by
  constructor
  · exact h.nodup.sublist (List.filter_sublist.map Prod.fst)
  · intro key value
    rw [List.mem_filter, h.mem_iff]

theorem nest_of_related
    {inside : κ → α → List (ν × β)} {relatedIn : κ → α → ν → β → Prop}
    (h : Enumerates entries related)
    (hinside : ∀ key value, related key value →
      Enumerates (inside key value) (relatedIn key value)) :
    Enumerates (nest entries inside) fun key value =>
      ∃ outer, related key.1 outer ∧ relatedIn key.1 outer key.2 value := by
  constructor
  · have hkeys (entry : κ × α) :
        ((inside entry.1 entry.2).map fun inner => ((entry.1, inner.1), inner.2)).map Prod.fst =
          ((inside entry.1 entry.2).map Prod.fst).map (Prod.mk entry.1) := by
      rw [List.map_map, List.map_map]
      rfl
    simp only [FieldRules.nest, List.map_flatMap, hkeys]
    rw [List.nodup_flatMap]
    refine ⟨?_, ?_⟩
    · intro entry hentry
      have hrelated := (h.mem_iff entry.1 entry.2).mp hentry
      exact (hinside entry.1 entry.2 hrelated).nodup.map fun _ _ heq => (Prod.mk.inj heq).2
    · have hdistinct := List.pairwise_map.mp h.nodup
      refine hdistinct.imp ?_
      intro first second hne key hfirst hsecond
      obtain ⟨_, _, rfl⟩ := List.mem_map.mp hfirst
      obtain ⟨_, _, heq⟩ := List.mem_map.mp hsecond
      exact hne (congrArg Prod.fst heq).symm
  · rintro ⟨outerKey, innerKey⟩ value
    rw [FieldRules.nest, List.mem_flatMap]
    constructor
    · rintro ⟨⟨other, outer⟩, hentry, hinner⟩
      obtain ⟨⟨key, found⟩, hmem, hpair⟩ := List.mem_map.mp hinner
      cases hpair
      have hrelated := (h.mem_iff _ outer).mp hentry
      exact ⟨outer, hrelated, ((hinside _ outer hrelated).mem_iff _ _).mp hmem⟩
    · rintro ⟨outer, hrelated, hin⟩
      refine ⟨(outerKey, outer), (h.mem_iff _ _).mpr hrelated, List.mem_map.mpr ?_⟩
      exact ⟨(innerKey, value), ((hinside _ outer hrelated).mem_iff _ _).mpr hin, rfl⟩

theorem nest
    {inside : κ → α → List (ν × β)} {relatedIn : κ → α → ν → β → Prop}
    (h : Enumerates entries related)
    (hinside : ∀ key value, Enumerates (inside key value) (relatedIn key value)) :
    Enumerates (nest entries inside) fun key value =>
      ∃ outer, related key.1 outer ∧ relatedIn key.1 outer key.2 value :=
  h.nest_of_related fun key value _ => hinside key value

theorem mapKey
    {rename : κ → ν} (h : Enumerates entries related) (hrename : Function.Injective rename) :
    Enumerates (entries.map fun entry => (rename entry.1, entry.2))
      fun key value => ∃ old, rename old = key ∧ related old value := by
  constructor
  · have hkeys : (entries.map fun entry => (rename entry.1, entry.2)).map Prod.fst =
        (entries.map Prod.fst).map rename := by
      rw [List.map_map, List.map_map]
      rfl
    rw [hkeys]
    exact h.nodup.map hrename
  · intro key value
    rw [List.mem_map]
    constructor
    · rintro ⟨⟨old, found⟩, hentry, hpair⟩
      cases hpair
      exact ⟨old, rfl, (h.mem_iff _ _).mp hentry⟩
    · rintro ⟨old, rfl, hrelated⟩
      exact ⟨(old, value), (h.mem_iff _ _).mpr hrelated, rfl⟩

end Enumerates

end FieldRules
