import Mathlib.Data.List.Induction
import ObjectWatch.Proofs.Filter.Equality
import ObjectWatch.Proofs.Value.Equality

/-! Equality of filters is sameness of their contents. Targets are compared in three ways: by their size and one
    inclusion, as mappings, and as sets of pairs. Where the values of targets can be told apart, the three agree
    with equality as finite maps, since the keys of a mapping are distinct; so equality of filters is an
    equivalence, and a set of filters has one member of each class. -/

namespace ObjectWatch

/-- Every entry of a table has its like in another one: an equal key with an equal value. -/
def Within (t u : List (Value × Value)) : Prop :=
  ∀ p ∈ t, ∃ q ∈ u, (p.1 == q.1) = true ∧ p.2.equal q.2 = true

/-- The entries of a mapping: keys that may be keys, each once, with values that satisfy `S`. -/
structure MappingTo (S : Value → Prop) (t : List (Value × Value)) : Prop where
  hashable : ∀ p ∈ t, p.1.hashable = true
  once : t.Pairwise fun p q => (p.1 == q.1) = false
  values : ∀ p ∈ t, S p.2

namespace Filter

/-- A filter whose target, if it has one, is a mapping to values that satisfy `S`. -/
def Over (S : Value → Prop) (f : Filter) : Prop :=
  ∀ target, f.target? = some target → MappingTo S target

/-- Filters of one variant with the same content: the same keys with equal values, or the same identities. -/
inductive SameContent : Filter → Filter → Prop where
  | null : SameContent null null
  | all : SameContent all all
  | labels {t u : List (Value × Value)} (left : Within t u) (right : Within u t) : SameContent (labels t) (labels u)
  | serviceFor {t u : List (Value × Value)} (left : Within t u) (right : Within u t) :
    SameContent (serviceFor t) (serviceFor u)
  | names {a b : List Identity} (h : ∀ id, id ∈ a ↔ id ∈ b) : SameContent (names a) (names b)

end Filter

/-! ### Mappings -/

section Mappings
variable {S : Value → Prop} {t u r : List (Value × Value)} {p q : Value × Value} {k v w : Value}

theorem Value.beq_iff_keyForm (hv : v.hashable = true) (hw : w.hashable = true) :
    (v == w) = true ↔ v.keyForm = w.keyForm :=
  Value.same_iff_keyForm hv hw

/-- Where a value is equal to itself, equality on its own is that inside a collection. -/
theorem EqualOn.equal_iff_beq (hS : EqualOn S) (hv : S v) : v.equal w = true ↔ (v == w) = true := by
  have hself := (Bool.and_eq_true_iff.mp (hS.refl v hv)).1
  rw [Value.equal, hself, Bool.true_and]

namespace MappingTo

theorem nodup_keyForms (ht : MappingTo S t) : (t.map fun p => p.1.keyForm).Nodup := by
  refine List.pairwise_map.mpr (ht.once.imp_of_mem fun hp hq hne hform => ?_)
  rw [(Value.beq_iff_keyForm (ht.hashable _ hp) (ht.hashable _ hq)).mpr hform] at hne
  cases hne

/-- Of two entries with equal keys there is only one. -/
theorem eq_of_keyForm_eq (ht : MappingTo S t) (hp : p ∈ t) (hq : q ∈ t) (h : p.1.keyForm = q.1.keyForm) : p = q :=
  List.inj_on_of_nodup_map ht.nodup_keyForms hp hq h

theorem get?_eq_some_iff (ht : MappingTo S t) (hk : k.hashable = true) :
    Table.get? k t = some w ↔ ∃ q ∈ t, (k == q.1) = true ∧ q.2 = w := by
  constructor
  · intro h
    obtain ⟨q, hq, rfl⟩ := Option.map_eq_some_iff.mp h
    have hkq := List.find?_some (p := fun e : Value × Value => k == e.1) hq
    exact ⟨q, List.mem_of_find?_eq_some hq, hkq, rfl⟩
  · rintro ⟨q, hq, hkq, rfl⟩
    have hfound : (t.find? fun e => k == e.1).isSome = true := List.find?_isSome.mpr ⟨q, hq, hkq⟩
    obtain ⟨e, he⟩ := Option.isSome_iff_exists.mp hfound
    -- What is found has a key equal to that of the entry, so it is the entry.
    have hmem : e ∈ t := List.mem_of_find?_eq_some he
    have hke := List.find?_some (p := fun e : Value × Value => k == e.1) he
    have hke := (Value.beq_iff_keyForm hk (ht.hashable e hmem)).mp hke
    have hkq := (Value.beq_iff_keyForm hk (ht.hashable q hq)).mp hkq
    rw [Table.get?, he, ht.eq_of_keyForm_eq hmem hq (hke.symm.trans hkq)]
    rfl

end MappingTo

variable (hS : EqualOn S)
include hS

namespace MappingTo

theorem within_self (ht : MappingTo S t) : Within t t := fun p hp =>
  ⟨p, hp, (Value.beq_iff_keyForm (ht.hashable p hp) (ht.hashable p hp)).mpr rfl, hS.refl p.2 (ht.values p hp)⟩

theorem within_trans (ht : MappingTo S t) (hu : MappingTo S u) (hr : MappingTo S r) (h : Within t u)
    (h' : Within u r) : Within t r := by
  intro p hp
  obtain ⟨q, hq, hkey, hvalue⟩ := h p hp
  obtain ⟨e, he, hkey', hvalue'⟩ := h' q hq
  rw [Value.beq_iff_keyForm (ht.hashable p hp) (hu.hashable q hq)] at hkey
  rw [Value.beq_iff_keyForm (hu.hashable q hq) (hr.hashable e he)] at hkey'
  refine ⟨e, he, (Value.beq_iff_keyForm (ht.hashable p hp) (hr.hashable e he)).mpr (hkey.trans hkey'), ?_⟩
  exact hS.trans p.2 q.2 e.2 (ht.values p hp) (hu.values q hq) (hr.values e he) hvalue hvalue'

theorem isSubset_iff_within (ht : MappingTo S t) (hu : MappingTo S u) : isSubset t u = true ↔ Within t u := by
  rw [isSubset_iff]
  refine forall₂_congr fun p hp => ?_
  simp only [hu.get?_eq_some_iff (ht.hashable p hp)]
  constructor
  · rintro ⟨_, ⟨q, hq, hkey, rfl⟩, hvalue⟩
    exact ⟨q, hq, hkey, hS.symm q.2 p.2 (hu.values q hq) (ht.values p hp) hvalue⟩
  · rintro ⟨q, hq, hkey, hvalue⟩
    exact ⟨q.2, ⟨q, hq, hkey, rfl⟩, hS.symm p.2 q.2 (ht.values p hp) (hu.values q hq) hvalue⟩

theorem sameEntries_iff_within (ht : MappingTo S t) (hu : MappingTo S u) :
    Value.sameEntries u t = true ↔ Within t u := by
  rw [sameEntries_iff]
  refine forall₂_congr fun p hp => ?_
  simp only [hu.get?_eq_some_iff (ht.hashable p hp), ← hS.equal_iff_beq (ht.values p hp)]
  constructor
  · rintro ⟨_, ⟨q, hq, hkey, rfl⟩, hvalue⟩
    exact ⟨q, hq, hkey, hvalue⟩
  · rintro ⟨q, hq, hkey, hvalue⟩
    exact ⟨q.2, ⟨q, hq, hkey, rfl⟩, hvalue⟩

/-- One inclusion and the same number of entries make the other. -/
theorem within_and_length_iff (ht : MappingTo S t) (hu : MappingTo S u) :
    Within t u ∧ t.length = u.length ↔ Within t u ∧ Within u t := by
  have forms {t u : List (Value × Value)} (ht : MappingTo S t) (hu : MappingTo S u) (h : Within t u) :
      (t.map fun p => p.1.keyForm) ⊆ u.map fun p => p.1.keyForm := by
    intro form hform
    obtain ⟨p, hp, rfl⟩ := List.mem_map.mp hform
    obtain ⟨q, hq, hkey, -⟩ := h p hp
    exact List.mem_map.mpr ⟨q, hq, ((Value.beq_iff_keyForm (ht.hashable p hp) (hu.hashable q hq)).mp hkey).symm⟩
  constructor
  · rintro ⟨h, hlength⟩
    refine ⟨h, fun q hq => ?_⟩
    -- The forms of the keys of one are all those of the other, so `q` is the like of some entry.
    have hperm := (ht.nodup_keyForms.subperm (forms ht hu h)).perm_of_length_le (by simp [hlength])
    obtain ⟨p, hp, hform⟩ := List.mem_map.mp (hperm.mem_iff.mpr (List.mem_map_of_mem hq))
    obtain ⟨q', hq', hkey, hvalue⟩ := h p hp
    have hkey' := (Value.beq_iff_keyForm (ht.hashable p hp) (hu.hashable q' hq')).mp hkey
    cases hu.eq_of_keyForm_eq hq' hq (hkey'.symm.trans hform)
    refine ⟨p, hp, (Value.beq_iff_keyForm (hu.hashable q hq) (ht.hashable p hp)).mpr hkey'.symm, ?_⟩
    exact hS.symm p.2 q.2 (ht.values p hp) (hu.values q hq) hvalue
  · rintro ⟨h, h'⟩
    have hle := (ht.nodup_keyForms.subperm (forms ht hu h)).length_le
    have hge := (hu.nodup_keyForms.subperm (forms hu ht h')).length_le
    rw [List.length_map, List.length_map] at hle hge
    exact ⟨h, Nat.le_antisymm hle hge⟩

end MappingTo

end Mappings

/-! ### Texts -/

/-- A text. -/
def Value.IsText (v : Value) : Prop :=
  ∃ s, v = .str s

theorem equalOn_isText : EqualOn Value.IsText where
  refl := by
    rintro _ ⟨s, rfl⟩
    exact Value.equal_str.mpr rfl
  symm := by
    rintro v _ - ⟨s, rfl⟩ h
    cases Value.equal_str.mp h
    exact h
  trans := by
    rintro u v _ - - ⟨s, rfl⟩ h h'
    cases Value.equal_str.mp h'
    exact h

namespace Textual
variable {t u : List (Value × Value)}

theorem mappingTo (ht : Textual t) : MappingTo Value.IsText t where
  hashable p hp := by
    obtain ⟨k, v, rfl⟩ := ht.texts p hp
    rfl
  once := by
    refine (List.pairwise_map.mp ht.keys).imp_of_mem fun {p q} hp _ hne => ?_
    obtain ⟨k, v, rfl⟩ := ht.texts p hp
    exact Bool.eq_false_iff.mpr fun h => hne (Value.str_beq.mp h).symm
  values p hp := by
    obtain ⟨k, v, rfl⟩ := ht.texts p hp
    exact ⟨v, rfl⟩

theorem of_perm (ht : Textual t) (h : t.Perm u) : Textual u :=
  ⟨(h.map _).nodup_iff.mp ht.keys, fun p hp => ht.texts p (h.mem_iff.mpr hp)⟩

/-- A table of the same size that holds what a target of texts asks for has the entries of the target. -/
theorem perm_of_get? (ht : Textual t) (hlength : t.length = u.length)
    (h : ∀ p ∈ t, ∃ w, Table.get? p.1 u = some w ∧ w = p.2) : t.Perm u := by
  refine (ht.nodup.subperm fun p hp => ?_).perm_of_length_le (Nat.le_of_eq hlength.symm)
  obtain ⟨k, v, rfl⟩ := ht.texts p hp
  obtain ⟨w, hw, rfl⟩ := h _ hp
  exact Value.mem_of_get?_str hw

end Textual

/-! ### Filters -/

namespace Filter

section Content
variable {S : Value → Prop} {f g h : Filter} {t u : List (Value × Value)}

theorem SameContent.symm (hfg : SameContent f g) : SameContent g f := by
  cases hfg with
  | null => exact .null
  | all => exact .all
  | labels left right => exact .labels right left
  | serviceFor left right => exact .serviceFor right left
  | names hids => exact .names fun id => (hids id).symm

variable (hS : EqualOn S)
include hS

theorem SameContent.refl (hf : f.Over S) : SameContent f f := by
  cases f with
  | null => exact .null
  | all => exact .all
  | labels t => exact .labels ((hf t rfl).within_self hS) ((hf t rfl).within_self hS)
  | serviceFor t => exact .serviceFor ((hf t rfl).within_self hS) ((hf t rfl).within_self hS)
  | names ids => exact .names fun _ => Iff.rfl

theorem SameContent.trans (hf : f.Over S) (hg : g.Over S) (hh : h.Over S) (hfg : SameContent f g)
    (hgh : SameContent g h) : SameContent f h := by
  cases hfg with
  | null => exact hgh
  | all => exact hgh
  | @labels t u left right =>
    cases hgh with
    | @labels _ r left' right' =>
      exact .labels ((hf t rfl).within_trans hS (hg u rfl) (hh r rfl) left left')
        ((hh r rfl).within_trans hS (hg u rfl) (hf t rfl) right' right)
  | @serviceFor t u left right =>
    cases hgh with
    | @serviceFor _ r left' right' =>
      exact .serviceFor ((hf t rfl).within_trans hS (hg u rfl) (hh r rfl) left left')
        ((hh r rfl).within_trans hS (hg u rfl) (hf t rfl) right' right)
  | names hids =>
    cases hgh with
    | names hids' => exact .names fun id => (hids id).trans (hids' id)

theorem labels_equals_iff_within (ht : MappingTo S t) (hu : MappingTo S u) :
    (labels t).equals (labels u) = true ↔ Within t u ∧ Within u t := by
  rw [equals, Bool.and_eq_true, beq_iff_eq, ht.isSubset_iff_within hS hu, and_comm, ht.within_and_length_iff hS hu]

theorem serviceFor_equals_iff_within (ht : MappingTo S t) (hu : MappingTo S u) :
    (serviceFor t).equals (serviceFor u) = true ↔ Within t u ∧ Within u t := by
  have step : (serviceFor t).equals (serviceFor u) = (t.length == u.length && Value.sameEntries u t) := rfl
  rw [step, Bool.and_eq_true, beq_iff_eq, ht.sameEntries_iff_within hS hu, and_comm, ht.within_and_length_iff hS hu]

theorem sameContent_of_equals (hf : f.Over S) (hg : g.Over S) (h : f.equals g = true) : SameContent f g := by
  cases f <;> cases g <;> try cases h
  case null.null => exact .null
  case all.all => exact .all
  case labels.labels t u =>
    obtain ⟨left, right⟩ := (labels_equals_iff_within hS (hf t rfl) (hg u rfl)).mp h
    exact .labels left right
  case serviceFor.serviceFor t u =>
    obtain ⟨left, right⟩ := (serviceFor_equals_iff_within hS (hf t rfl) (hg u rfl)).mp h
    exact .serviceFor left right
  case names.names a b => exact .names (names_equals_iff.mp h)

theorem equals_iff_sameContent (hf : f.Over S) (hg : g.Over S) : f.equals g = true ↔ SameContent f g := by
  refine ⟨sameContent_of_equals hS hf hg, fun h => ?_⟩
  cases h with
  | null => rfl
  | all => rfl
  | labels left right => exact (labels_equals_iff_within hS (hf _ rfl) (hg _ rfl)).mpr ⟨left, right⟩
  | serviceFor left right => exact (serviceFor_equals_iff_within hS (hf _ rfl) (hg _ rfl)).mpr ⟨left, right⟩
  | names h => exact names_equals_iff.mpr h

theorem equals_refl (hf : f.Over S) : f.equals f = true :=
  (equals_iff_sameContent hS hf hf).mpr (.refl hS hf)

theorem equals_symm (hf : f.Over S) (hg : g.Over S) (hfg : f.equals g = true) : g.equals f = true :=
  (equals_iff_sameContent hS hg hf).mpr ((equals_iff_sameContent hS hf hg).mp hfg).symm

theorem equals_trans (hf : f.Over S) (hg : g.Over S) (hh : h.Over S) (hfg : f.equals g = true)
    (hgh : g.equals h = true) : f.equals h = true := by
  rw [equals_iff_sameContent hS hf hg] at hfg
  rw [equals_iff_sameContent hS hg hh] at hgh
  exact (equals_iff_sameContent hS hf hh).mpr (hfg.trans hS hf hg hh hgh)

end Content

/-! ### Filters of texts -/

namespace HasTexts
variable {f g h : Filter}

theorem toOver (hf : f.HasTexts) : f.Over Value.IsText :=
  fun target htarget => (hf target htarget).mappingTo

/-- A filter that equals one of texts is one of texts. -/
theorem of_equals (hf : f.HasTexts) (hfg : f.equals g = true) : g.HasTexts := by
  cases f <;> cases g <;> try cases hfg
  case null.null => rintro _ ⟨⟩
  case all.all => rintro _ ⟨⟩
  case labels.labels t u =>
    have ht := hf t rfl
    rw [equals, Bool.and_eq_true, beq_iff_eq, isSubset_iff] at hfg
    rintro _ ⟨⟩
    refine ht.of_perm (ht.perm_of_get? hfg.1 fun p hp => ?_)
    obtain ⟨w, hw, hequal⟩ := hfg.2 p hp
    obtain ⟨k, v, rfl⟩ := ht.texts p hp
    exact ⟨w, hw, Value.equal_str.mp hequal⟩
  case serviceFor.serviceFor t u =>
    have ht := hf t rfl
    have step : (serviceFor t).equals (serviceFor u) = (t.length == u.length && Value.sameEntries u t) := rfl
    rw [step, Bool.and_eq_true, beq_iff_eq, sameEntries_iff] at hfg
    rintro _ ⟨⟩
    refine ht.of_perm (ht.perm_of_get? hfg.1 fun p hp => ?_)
    obtain ⟨w, hw, hequal⟩ := hfg.2 p hp
    obtain ⟨k, v, rfl⟩ := ht.texts p hp
    exact ⟨w, hw, Value.str_beq.mp hequal⟩
  case names.names a b => rintro _ ⟨⟩

theorem equals_symm (hf : f.HasTexts) (hfg : f.equals g = true) : g.equals f = true :=
  Filter.equals_symm equalOn_isText hf.toOver (hf.of_equals hfg).toOver hfg

theorem equals_trans (hf : f.HasTexts) (hfg : f.equals g = true) (hgh : g.equals h = true) : f.equals h = true := by
  have hg := hf.of_equals hfg
  exact Filter.equals_trans equalOn_isText hf.toOver hg.toOver (hg.of_equals hgh).toOver hfg hgh

end HasTexts

/-! ### Keys of filters -/

/-- A filter that may be put into a set: the values of its target, if it has one, may be members of one. -/
def Hashable (f : Filter) : Prop :=
  ∀ target, f.target? = some target → ∀ p ∈ target, p.2.hashable = true

section Keys
variable {S : Value → Prop} {f g : Filter} {t u : List (Value × Value)}

/-- An entry of a target as a member of a set. -/
def pair (p : Value × Value) : Value :=
  .tuple [p.1, p.2]

theorem pairs?_eq (ht : MappingTo S t) (h : ∀ p ∈ t, p.2.hashable = true) : key?.pairs? t = some (t.map pair) := by
  have hall : (t.map pair).all Value.hashable = true := by
    refine List.all_eq_true.mpr (List.forall_mem_map.mpr fun p hp => ?_)
    simp [pair, Value.hashable, Value.hashableItems, ht.hashable p hp, h p hp]
  exact if_pos hall

theorem pair_beq_pair {p q : Value × Value} :
    (pair p == pair q) = true ↔ (p.1 == q.1) = true ∧ (p.2 == q.2) = true := by
  have step : (pair p == pair q) = (p.1 == q.1 && (p.2 == q.2 && true)) := rfl
  rw [step, Bool.and_true, Bool.and_eq_true]

theorem sameKey_iff {a b : String × List Value} : sameKey a b = true ↔
    a.1 = b.1 ∧ a.2.all b.2.contains = true ∧ b.2.all a.2.contains = true := by
  rw [sameKey, Bool.and_eq_true, Bool.and_eq_true, beq_iff_eq, and_assoc]

theorem all_contains_identities_iff {a b : List Identity} :
    (a.map Value.identity).all (b.map Value.identity).contains = true ↔ ∀ id ∈ a, id ∈ b := by
  rw [List.all_eq_true, List.forall_mem_map]
  refine forall₂_congr fun id _ => ?_
  have step (n : Identity) : (Value.identity id == .identity n) = (id == n) := rfl
  rw [List.contains_eq_any_beq, List.any_map, List.any_eq_true]
  simp [step]

/-- What the class of a variant is called. -/
def Variant.className : Variant → String
  | null => "NullFilter"
  | all => "AllFilter"
  | labels => "LabelsFilter"
  | serviceFor => "ServiceForFilter"
  | names => "NSNameFilter"

theorem Variant.className_injective : Function.Injective className := by
  intro v w h
  cases v <;> cases w <;> first | rfl | exact absurd h (by decide)

/-- What a filter is put into a set by, if it may be. -/
def keyOf (f : Filter) : String × List Value :=
  (f.variant.className, match f with
    | null | all => []
    | labels target | serviceFor target => target.map pair
    | names ids => ids.map .identity)

theorem key?_eq (hf : f.Over S) (hhf : f.Hashable) : f.key? = some f.keyOf := by
  cases f with
  | null => rfl
  | all => rfl
  | labels t =>
    rw [key?, pairs?_eq (hf t rfl) (hhf t rfl)]
    rfl
  | serviceFor t =>
    rw [key?, pairs?_eq (hf t rfl) (hhf t rfl)]
    rfl
  | names ids => rfl

variable (hS : EqualOn S)
include hS

/-- The sets of the entries include one another as the mappings do. -/
theorem all_contains_pairs_iff (ht : MappingTo S t) :
    (t.map pair).all (u.map pair).contains = true ↔ Within t u := by
  rw [List.all_eq_true, List.forall_mem_map]
  refine forall₂_congr fun p hp => ?_
  rw [List.contains_eq_any_beq, List.any_map, List.any_eq_true]
  refine exists_congr fun q => and_congr_right fun _ => ?_
  rw [Function.comp_apply, pair_beq_pair, hS.equal_iff_beq (ht.values p hp)]

theorem sameContent_of_sameKey (hf : f.Over S) (hg : g.Over S) (h : sameKey f.keyOf g.keyOf = true) :
    SameContent f g := by
  obtain ⟨hname, left, right⟩ := sameKey_iff.mp h
  have hvariant : f.variant = g.variant := Variant.className_injective hname
  cases f <;> cases g <;> try cases hvariant
  case null.null => exact .null
  case all.all => exact .all
  case labels.labels t u =>
    exact .labels ((all_contains_pairs_iff hS (hf t rfl)).mp left) ((all_contains_pairs_iff hS (hg u rfl)).mp right)
  case serviceFor.serviceFor t u =>
    exact .serviceFor ((all_contains_pairs_iff hS (hf t rfl)).mp left)
      ((all_contains_pairs_iff hS (hg u rfl)).mp right)
  case names.names a b =>
    rw [keyOf, keyOf, all_contains_identities_iff] at left right
    exact .names fun id => ⟨left id, right id⟩

/-- Filters have equal keys in a set exactly if their contents are the same. -/
theorem sameKey_keyOf_iff (hf : f.Over S) (hg : g.Over S) : sameKey f.keyOf g.keyOf = true ↔ SameContent f g := by
  refine ⟨sameContent_of_sameKey hS hf hg, fun h => sameKey_iff.mpr ?_⟩
  cases h with
  | null => exact ⟨rfl, rfl, rfl⟩
  | all => exact ⟨rfl, rfl, rfl⟩
  | labels left right =>
    exact ⟨rfl, (all_contains_pairs_iff hS (hf _ rfl)).mpr left, (all_contains_pairs_iff hS (hg _ rfl)).mpr right⟩
  | serviceFor left right =>
    exact ⟨rfl, (all_contains_pairs_iff hS (hf _ rfl)).mpr left, (all_contains_pairs_iff hS (hg _ rfl)).mpr right⟩
  | names h =>
    exact ⟨rfl, all_contains_identities_iff.mpr fun id => (h id).mp,
      all_contains_identities_iff.mpr fun id => (h id).mpr⟩

theorem equals_iff_sameKey (hf : f.Over S) (hg : g.Over S) : f.equals g = true ↔ sameKey f.keyOf g.keyOf = true := by
  rw [equals_iff_sameContent hS hf hg, sameKey_keyOf_iff hS hf hg]

end Keys

/-! ### Sets of filters -/

/-- Of a list of filters the ones kept are in their order, none equals another, and every filter of the list
equals one of them. -/
structure OneOfEach (fs kept : List Filter) : Prop where
  sublist : kept.Sublist fs
  apart : kept.Pairwise fun f g => f.equals g = false
  covers : ∀ f ∈ fs, ∃ g ∈ kept, g.equals f = true

section Sets
variable {S : Value → Prop} {f : Filter} {fs kept : List Filter}

variable (hS : EqualOn S)
include hS

/-- A filter is put behind the others unless one of them equals it. -/
theorem insertNew_cases (hf : f.Over S ∧ f.Hashable) (hkept : ∀ g ∈ kept, g.Over S ∧ g.Hashable) :
    (∃ g ∈ kept, g.equals f = true) ∧ insertNew f kept = kept ∨
      (∀ g ∈ kept, g.equals f = false) ∧ insertNew f kept = kept ++ [f] := by
  unfold insertNew
  simp only
  split
  · rename_i hfound
    obtain ⟨g, hg, hsame⟩ := List.any_eq_true.mp hfound
    exact .inl ⟨⟨g, hg, (Bool.and_eq_true_iff.mp hsame).2⟩, rfl⟩
  · rename_i hfound
    refine .inr ⟨fun g hg => Bool.eq_false_iff.mpr fun hequal => hfound ?_, rfl⟩
    have hgover := (hkept g hg).1
    have hkey := (equals_iff_sameKey hS hf.1 hgover).mp (equals_symm hS hgover hf.1 hequal)
    refine List.any_eq_true.mpr ⟨g, hg, ?_⟩
    rw [key?_eq hf.1 hf.2, key?_eq hgover (hkept g hg).2]
    exact Bool.and_eq_true_iff.mpr ⟨hkey, hequal⟩

theorem OneOfEach.insertNew (hf : f.Over S ∧ f.Hashable) (hfs : ∀ g ∈ fs, g.Over S ∧ g.Hashable)
    (h : OneOfEach fs kept) : OneOfEach (fs ++ [f]) (insertNew f kept) := by
  have hkept : ∀ g ∈ kept, g.Over S ∧ g.Hashable := fun g hg => hfs g (h.sublist.subset hg)
  rcases insertNew_cases hS hf hkept with ⟨hfound, hinsert⟩ | ⟨hnew, hinsert⟩
  · rw [hinsert]
    refine ⟨h.sublist.trans (List.sublist_append_left fs [f]), h.apart, fun g hg => ?_⟩
    rcases List.mem_append.mp hg with hg | hg
    · exact h.covers g hg
    · exact List.mem_singleton.mp hg ▸ hfound
  · rw [hinsert]
    refine ⟨h.sublist.append (List.Sublist.refl [f]), ?_, fun g hg => ?_⟩
    · refine List.pairwise_append.mpr ⟨h.apart, List.pairwise_singleton _ f, fun g hg g' hg' => ?_⟩
      exact List.mem_singleton.mp hg' ▸ hnew g hg
    · rcases List.mem_append.mp hg with hg | hg
      · obtain ⟨g', hg', hequal⟩ := h.covers g hg
        exact ⟨g', List.mem_append_left [f] hg', hequal⟩
      · cases List.mem_singleton.mp hg
        exact ⟨f, List.mem_append_right kept hg, equals_refl hS hf.1⟩

theorem oneOfEach_foldl (hfs : ∀ g ∈ fs, g.Over S ∧ g.Hashable) :
    OneOfEach fs (fs.foldl (fun kept f => Filter.insertNew f kept) []) := by
  induction fs using List.reverseRecOn with
  | nil => exact ⟨.refl [], .nil, fun f hf => absurd hf List.not_mem_nil⟩
  | append_singleton fs f ih =>
    have hfs' : ∀ g ∈ fs, g.Over S ∧ g.Hashable := fun g hg => hfs g (List.mem_append_left [f] hg)
    rw [List.foldl_concat]
    exact (ih hfs').insertNew hS (hfs f (List.mem_append_right fs (List.mem_singleton_self f))) hfs'

theorem distinct?_oneOfEach (hfs : ∀ g ∈ fs, g.Over S ∧ g.Hashable) :
    ∃ kept, distinct? fs = some kept ∧ OneOfEach fs kept := by
  have hkeys : (fs.all fun f => f.key?.isSome) = true := List.all_eq_true.mpr fun f hf => by
    rw [key?_eq (hfs f hf).1 (hfs f hf).2]
    rfl
  exact ⟨_, if_pos hkeys, oneOfEach_foldl hS hfs⟩

/-- Where equality of the values of targets is an equivalence: filters are equal exactly if they are of one variant
and their contents are the same, whatever the order of the entries and however often an identity is named. So
equality is an equivalence; filters whose values may be members of sets are equal exactly if their keys are; and
a set of such filters keeps one of each class. -/
theorem equals_iff_same_content :
    (∀ f g : Filter, f.Over S → g.Over S → (f.equals g = true ↔ SameContent f g)) ∧
    (∀ f : Filter, f.Over S → f.equals f = true) ∧
    (∀ f g : Filter, f.Over S → g.Over S → f.equals g = true → g.equals f = true) ∧
    (∀ f g h : Filter, f.Over S → g.Over S → h.Over S → f.equals g = true → g.equals h = true →
      f.equals h = true) ∧
    (∀ f g : Filter, f.Over S → g.Over S → f.Hashable → g.Hashable →
      ∃ a b, f.key? = some a ∧ g.key? = some b ∧ (f.equals g = true ↔ sameKey a b = true)) ∧
    ∀ fs : List Filter, (∀ f ∈ fs, f.Over S ∧ f.Hashable) → ∃ kept, distinct? fs = some kept ∧ OneOfEach fs kept := by
  refine ⟨fun f g => equals_iff_sameContent hS, fun f => equals_refl hS, fun f g => equals_symm hS,
    fun f g h => equals_trans hS, fun f g hf hg hhf hhg => ?_, fun fs => distinct?_oneOfEach hS⟩
  exact ⟨f.keyOf, g.keyOf, key?_eq hf hhf, key?_eq hg hhg, equals_iff_sameKey hS hf hg⟩

omit hS in
/-- The number one and the truth value are equal, as keys and as values; an identity is named twice. -/
theorem equals_iff_same_content_mixed :
    let S : Value → Prop := (· ∈ [.int 1, .bool true, .str "1"])
    let f : Filter := .labels [(.str "a", .int 1), (.int 1, .str "1")]
    let g : Filter := .labels [(.bool true, .str "1"), (.str "a", .bool true)]
    let h : Filter := .serviceFor [(.str "a", .int 1)]
    let n : Filter := .names [⟨"", "x"⟩, ⟨"ns", "y"⟩, ⟨"", "x"⟩]
    let n' : Filter := .names [⟨"ns", "y"⟩, ⟨"", "x"⟩]
    EqualOn S ∧ SameContent f g ∧ n.equals n' = true ∧
      ∃ kept, distinct? [f, g, h, n, n'] = some kept ∧ OneOfEach [f, g, h, n, n'] kept ∧ kept.length = 3 := by
  intro S f g h n n'
  have refl : ∀ u ∈ [Value.int 1, .bool true, .str "1"], u.equal u = true := by decide +kernel
  have symm : ∀ u ∈ [Value.int 1, .bool true, .str "1"], ∀ v ∈ [Value.int 1, .bool true, .str "1"],
      u.equal v = true → v.equal u = true := by
    decide +kernel
  have trans : ∀ u ∈ [Value.int 1, .bool true, .str "1"], ∀ v ∈ [Value.int 1, .bool true, .str "1"],
      ∀ w ∈ [Value.int 1, .bool true, .str "1"], u.equal v = true → v.equal w = true → u.equal w = true := by
    decide +kernel
  have equal : EqualOn S :=
    ⟨refl, fun v w hv hw => symm v hv w hw, fun u v w hu hv hw => trans u hu v hv w hw⟩
  obtain ⟨content, -, -, -, -, distinct⟩ := equals_iff_same_content equal
  have overF : f.Over S := by
    rintro _ ⟨⟩
    exact ⟨by decide, by decide +kernel, by simp [S]⟩
  have overG : g.Over S := by
    rintro _ ⟨⟩
    exact ⟨by decide, by decide +kernel, by simp [S]⟩
  have overH : h.Over S := by
    rintro _ ⟨⟩
    exact ⟨by decide, by decide +kernel, by simp [S]⟩
  have hashable : f.Hashable ∧ g.Hashable ∧ h.Hashable := by
    refine ⟨?_, ?_, ?_⟩ <;> rintro _ ⟨⟩ <;> decide
  have members : ∀ e ∈ [f, g, h, n, n'], e.Over S ∧ e.Hashable := by
    simp only [List.forall_mem_cons]
    exact ⟨⟨overF, hashable.1⟩, ⟨overG, hashable.2.1⟩, ⟨overH, hashable.2.2⟩, ⟨nofun, nofun⟩, ⟨nofun, nofun⟩, nofun⟩
  obtain ⟨kept, hkept, each⟩ := distinct _ members
  refine ⟨equal, (content f g overF overG).mp (by decide +kernel), by decide +kernel, kept, hkept, each, ?_⟩
  have count : (distinct? [f, g, h, n, n']).map List.length = some 3 := by decide +kernel
  rw [hkept] at count
  exact Option.some.inj count

end Sets

end Filter

end ObjectWatch
