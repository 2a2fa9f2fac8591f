import ObjectWatch.Proofs.Manifest.Equality
import ObjectWatch.Proofs.Monitor.Delta

/-! Which changes of a tracked object are announced. A listing announces an object of a tracked identity
    exactly once if it differs from the one before, and else not at all. What the filters see of an object are
    texts, so a change that they see is announced, except where equal values of manifests have other texts. Equal
    keys can have other texts as well, and keys with one text can change their order. -/

namespace ObjectWatch

namespace Monitor
open Cache Value
variable {depth : Nat} {m n : Monitor} {cr : Criterion} {handlers : List (String × Handler)} {ops : List Op}
  {before objects : List Value} {id : Identity} {v w : Value}

/-- After any run, a listing that no handler disturbs publishes the events from what was tracked to what is
tracked then. For an identity that is tracked before and after it, these have one upsert if the objects differ
and no event otherwise. So a change of the labels or of the selector of a typed object is announced once, and
one of a manifest is announced once unless equal values with other texts took the places of the former ones. -/
theorem change_announced (hm : (fresh cr handlers).run depth ops = m)
    (hn : (Update.sync objects none).perform holds depth m = n) (hcalm : CalmIn m.handlers n.journal)
    (hv : Table.get? id m.cache.tracked = some v) (hw : Table.get? id n.cache.tracked = some w) :
    n.published = m.published ++ announced m.handlers (changes m.cache.tracked n.cache.tracked) ∧
    ((changes m.cache.tracked n.cache.tracked).filter fun e => e.id == id) =
      (if v.equal w then [] else [.upsert id w]) ∧
    (Legible v → Legible w → ¬ SameLook v w → ¬ DisguisedParts v w →
      ((changes m.cache.tracked n.cache.tracked).filter fun e => e.id == id) = [.upsert id w]) := by
  subst hm hn
  have before : Exact (lastListed ops) ((fresh cr handlers).run depth ops).cache := run_exact
  have after : Exact objects ((Update.sync objects none).perform holds depth ((fresh cr handlers).run depth ops)).cache :=
    (update_exact (u := .sync objects none) before).cache
  have told := filter_changes before.nodup_keys after.nodup_keys hv hw
  refine ⟨published_changes rfl before (.sync objects) hcalm, told, fun hlv hlw hlook hplain => ?_⟩
  have differ : v.equal w = false := by
    refine Bool.eq_false_iff.mpr fun hequal => ?_
    have hbeq : (v == w) = true := (Bool.and_eq_true_iff.mp hequal).2
    exact (sameLook_or_disguised hlv hlw hbeq).elim hlook hplain
  rw [told, differ]
  rfl

/-- The manifest of an object `a` with one label. -/
def labelled (value : Value) : Value :=
  .mapping [(.str "metadata", .mapping [(.str "name", .str "a"), (.str "labels", .mapping [(.str "x", value)])])]

theorem legible_labelled (value : Value) : Legible (labelled value) := by
  refine .manifest rfl (.mapping ?_ ?_) (.mapping ?_ ?_) (.mapping ?_ ?_) (.other .null rfl) (.other .null rfl)
  all_goals simp [Table.keys]

/-- A label changes from a number to a text. -/
theorem change_announced_relabelled :
    let m := (fresh (.filter .null) [("map", Handler.silent)]).run 1 [.update (.sync [labelled (.int 1)] none)]
    let n := (Update.sync [labelled (.str "one")] none).perform holds 1 m
    CalmIn m.handlers n.journal ∧ Table.get? ⟨"", "a"⟩ m.cache.tracked = some (labelled (.int 1)) ∧
      Table.get? ⟨"", "a"⟩ n.cache.tracked = some (labelled (.str "one")) ∧
      ¬ SameLook (labelled (.int 1)) (labelled (.str "one")) ∧
      ((changes m.cache.tracked n.cache.tracked).filter fun e => e.id == ⟨"", "a"⟩) =
        [.upsert ⟨"", "a"⟩ (labelled (.str "one"))] := by
  intro m n
  have look : ¬ SameLook (labelled (.int 1)) (labelled (.str "one")) := fun h =>
    absurd h.labels (by decide +kernel)
  have plain : ¬ DisguisedParts (labelled (.int 1)) (labelled (.str "one")) := by
    rintro ⟨-, -, ⟨key, x, y, hx, hy, hxy, -⟩ | ⟨key, x, y, hx, -⟩⟩
    · cases List.mem_singleton.mp (mem_of_get?_str hx)
      cases Option.some.inj (hy : some (str "one") = some y)
      exact absurd hxy (by decide +kernel)
    · cases hx
  have calm : CalmIn m.handlers n.journal := calmIn_silent
  have before : Table.get? ⟨"", "a"⟩ m.cache.tracked = some (labelled (.int 1)) := rfl
  have after : Table.get? ⟨"", "a"⟩ n.cache.tracked = some (labelled (.str "one")) := rfl
  obtain ⟨-, -, announced⟩ := change_announced (m := m) (n := n) rfl rfl calm before after
  exact ⟨calm, before, after, look, announced (legible_labelled _) (legible_labelled _) look plain⟩

/-- A label changes from the number one to the truth value, which is equal to it and has another text. The
object is tracked as it is now, and nobody is told. -/
theorem change_unannounced :
    let m := (fresh (.filter .null) [("map", Handler.silent)]).run 1 [.update (.sync [labelled (.int 1)] none)]
    let n := (Update.sync [labelled (.bool true)] none).perform holds 1 m
    CalmIn m.handlers n.journal ∧ Table.get? ⟨"", "a"⟩ m.cache.tracked = some (labelled (.int 1)) ∧
      Table.get? ⟨"", "a"⟩ n.cache.tracked = some (labelled (.bool true)) ∧
      (labelled (.int 1)).labels = [(.str "x", .str "1")] ∧
      (labelled (.bool true)).labels = [(.str "x", .str "true")] ∧
      ¬ SameLook (labelled (.int 1)) (labelled (.bool true)) ∧ n.published = m.published := by
  intro m n
  exact ⟨calmIn_silent, rfl, rfl, rfl, rfl, fun h => absurd h.labels (by decide +kernel), rfl⟩

/-- The manifest of an object `a` with these labels. -/
def labelledBy (labels : List (Value × Value)) : Value :=
  .mapping [(.str "metadata", .mapping [(.str "name", .str "a"), (.str "labels", .mapping labels)])]

/-- Keys that are not distinct texts hide changes, too: the key of a label changes from the number one to the truth
value; and of two keys with one text, the other one comes last. -/
theorem change_unannounced_keys :
    ∀ change ∈ [([(.int 1, .str "x")], [(.bool true, .str "x")]),
        ([(.int 1, .str "x"), (.str "1", .str "y")], [(.str "1", .str "y"), (.int 1, .str "x")])],
      let m := (fresh (.filter .null) [("map", Handler.silent)]).run 1 [.update (.sync [labelledBy change.1] none)]
      let n := (Update.sync [labelledBy change.2] none).perform holds 1 m
      CalmIn m.handlers n.journal ∧ Table.get? ⟨"", "a"⟩ n.cache.tracked = some (labelledBy change.2) ∧
        ¬ SameLook (labelledBy change.1) (labelledBy change.2) ∧ n.published = m.published := by
  simp only [List.forall_mem_cons]
  refine ⟨⟨calmIn_silent, rfl, fun h => ?_, rfl⟩, ⟨calmIn_silent, rfl, fun h => ?_, rfl⟩, nofun⟩
  · exact absurd h.labels (by decide +kernel)
  · exact absurd h.labels (by decide +kernel)

end Monitor

end ObjectWatch
