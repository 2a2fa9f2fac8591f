import ObjectWatch.Proofs.Filter.Grammar
import ObjectWatch.Proofs.Identity

/-! Filters of names by the identities that are meant. An identity may be given in several ways, and each of them is
    read as the same identity; what is left of a list of identities is the set of its members. So neither the spelling
    nor the order nor a repetition shows in the filter, and one identity without a name refuses the whole list. -/

namespace ObjectWatch

namespace Identity

/-- What an identity may be given as: itself, a text that joins its parts, or a collection of two parts that have its
namespace and its name for texts. The name may be empty. -/
inductive GivenBy : Value → Identity → Prop where
  | identity (n : Identity) : GivenBy (.identity n) n
  | text {s : String} {n : Identity} (h : JoinedFrom s n) : GivenBy (.str s) n
  | pair {v ns name : Value} (hv : ∀ s, v ≠ .str s) (h : v.iterate? = some [ns, name]) (hns : ns.hasText = true)
    (hname : name.hasText = true) : GivenBy v ⟨ns.text, name.text⟩

/-- A value that gives an identity without a name, or has two parts of which the second is no name, whatever the
first one is. -/
inductive Nameless (v : Value) : Prop where
  | given {n : Identity} (h : GivenBy v n) (hname : n.name = "")
  | pair {ns name : Value} (hv : ∀ s, v ≠ .str s) (h : v.iterate? = some [ns, name]) (hname : name.text = "")

/-- One of the values is an identity or stands for it. -/
def Meant (vs : List Value) (n : Identity) : Prop :=
  ∃ v ∈ vs, GivenBy v n

/-- An identity, or a value that has parts, as texts and collections have. -/
def Candidate (v : Value) : Prop :=
  (∃ n, v = .identity n) ∨ v.iterate?.isSome = true

section Given
variable {v : Value} {n m : Identity} {e : IdentityError} {vs : List Value} {ids : List Identity}

/-- A value is given for one identity only. -/
theorem GivenBy.unique (h : GivenBy v n) (h' : GivenBy v m) : n = m := by
  cases h with
  | identity n =>
    cases h' with
    | identity => rfl
    | pair _ hparts _ _ => cases hparts
  | text hs =>
    cases h' with
    | text hs' => exact hs.unique hs'
    | pair hv _ _ _ => exact absurd rfl (hv _)
  | pair hv hparts _ _ =>
    cases h' with
    | identity => cases hparts
    | text => exact absurd rfl (hv _)
    | pair _ hparts' _ _ =>
      cases hparts.symm.trans hparts'
      rfl

/-- Values that are given for some identities mean these. -/
theorem meant_iff (h : List.Forall₂ GivenBy vs ids) : Meant vs n ↔ n ∈ ids := by
  induction h with
  | nil => simp [Meant]
  | @cons v m vs ids hv _ ih =>
    have hfirst : GivenBy v n ↔ n = m := ⟨fun hn => hn.unique hv, fun hn => hn ▸ hv⟩
    rw [List.mem_cons, ← ih, ← hfirst]
    simp [Meant]

theorem ofValue_pair {ns name : Value} (hv : ∀ s, v ≠ .str s) (h : v.iterate? = some [ns, name]) :
    ofValue v = (ofParts ns name).mapError .text := by
  unfold ofValue
  split
  · cases h
  · exact absurd rfl (hv _)
  · rw [h]

theorem ofParts_eq_ok_iff {ns name : Value} : ofParts ns name = .ok n ↔
    (ns.hasText = true ∧ name.hasText = true) ∧ (⟨ns.text, name.text⟩ : Identity) = n := by
  simp only [ofParts, bind_eq_ok_iff, Value.text?_eq_ok_iff]
  constructor
  · rintro ⟨_, ⟨hns, rfl⟩, _, ⟨hname, rfl⟩, h⟩
    exact ⟨⟨hns, hname⟩, Except.ok.inj h⟩
  · rintro ⟨⟨hns, hname⟩, rfl⟩
    exact ⟨_, ⟨hns, rfl⟩, _, ⟨hname, rfl⟩, rfl⟩

theorem GivenBy.named_eq (h : GivenBy v n) (hname : n.name ≠ "") : named v = .ok n := by
  cases h with
  | identity n => exact if_neg hname
  | text hs => exact Filter.named_str.mpr (spelledBy_iff_joinedFrom.mpr ⟨hs, hname⟩)
  | pair hv hparts hns hnametext =>
    rw [named, ofValue_pair hv hparts, ofParts_eq_ok_iff.mpr ⟨⟨hns, hnametext⟩, rfl⟩]
    exact if_neg hname

theorem refused_of_pair {ns name : Value} (hv : ∀ s, v ≠ .str s) (h : v.iterate? = some [ns, name])
    (hname : name.text = "") : ∃ e, named v = .error e := by
  rw [named, ofValue_pair hv h]
  cases hparts : ofParts ns name with
  | error cause => exact ⟨_, rfl⟩
  | ok m =>
    obtain ⟨-, rfl⟩ := ofParts_eq_ok_iff.mp hparts
    exact ⟨_, if_pos hname⟩

theorem Nameless.refused (h : Nameless v) : ∃ e, named v = .error e := by
  cases h with
  | pair hv hparts hname => exact refused_of_pair hv hparts hname
  | given h hname =>
    cases h with
    | identity n => exact ⟨_, if_pos hname⟩
    | text hs =>
      cases hread : named (.str _) with
      | error e => exact ⟨e, rfl⟩
      | ok m =>
        -- What is read off a text has a name, but this text is joined from nothing else than this identity.
        obtain ⟨hm, hnamed⟩ := spelledBy_iff_joinedFrom.mp (Filter.named_str.mp hread)
        exact absurd (hs.unique hm ▸ hname) hnamed
    | pair hv hparts _ _ => exact refused_of_pair hv hparts hname

theorem GivenBy.candidate (h : GivenBy v n) : Candidate v := by
  cases h with
  | identity n => exact .inl ⟨n, rfl⟩
  | text => exact .inr rfl
  | pair _ hparts _ _ => exact .inr (hparts ▸ rfl)

theorem Candidate.kind_of_ofValue (hv : Candidate v) (h : ofValue v = .error e) :
    (Failure.identity e).kind = .invalidValue := by
  unfold ofValue at h
  split at h
  · cases h
  · split at h
    · cases h
    · cases h
      rfl
  · rename_i hidentity _
    split at h
    · obtain ⟨cause, -, rfl⟩ := mapError_eq_error_iff.mp h
      rfl
    · cases h
      rfl
    · rename_i hparts
      rcases hv with ⟨n, rfl⟩ | hsome
      · exact absurd rfl (hidentity n)
      · rw [hparts] at hsome
        cases hsome

/-- Only what has no parts at all is refused otherwise than as an invalid value. -/
theorem Candidate.kind_eq (hv : Candidate v) (h : named v = .error e) : (Failure.identity e).kind = .invalidValue := by
  rw [named] at h
  cases hvalue : ofValue v with
  | error e' =>
    rw [hvalue] at h
    cases h
    exact hv.kind_of_ofValue hvalue
  | ok n =>
    simp only [hvalue] at h
    split at h
    · cases h
      rfl
    · cases h

end Given

end Identity

namespace Filter

/-- Two filters that cannot be told apart: they are equal, pass the same objects and show the same text. -/
structure Interchangeable (f g : Filter) : Prop where
  equals : f.equals g = true
  accept : ∀ v, f.accept v = g.accept v
  literal : f.literal = g.literal

section Names
variable {vs ws : List Value} {ids ids' : List Identity}

open Identity

theorem literal_names : (names ids).literal =
    "NSNameFilter([" ++ ", ".intercalate ((sorted (distinct ids)).map fun id => Text.quoted id.text) ++ "])" := rfl

theorem interchangeable_names (h : ∀ n, n ∈ ids ↔ n ∈ ids') : Interchangeable (names ids) (names ids') where
  equals := names_equals_iff.mpr h
  accept := names_accept_congr h
  literal := by rw [literal_names, literal_names, sorted_distinct_congr h]

/-- Identities with names make a filter of these identities, however they are given. -/
theorem ofIdentities_of_given (hvs : ∀ v ∈ vs, ∃ n, GivenBy v n) (hnamed : ∀ n, Meant vs n → n.name ≠ "") :
    ∃ ids, ofIdentities vs = .ok (names ids) ∧ ∀ n, n ∈ ids ↔ Meant vs n := by
  have hread : ∀ v ∈ vs, ∀ n, GivenBy v n → named v = .ok n := fun v hv n hn => hn.named_eq (hnamed n ⟨v, hv, hn⟩)
  have hall : ∀ v ∈ vs, ∃ n, named v = .ok n := by
    intro v hv
    obtain ⟨n, hn⟩ := hvs v hv
    exact ⟨n, hread v hv n hn⟩
  obtain ⟨ids, hids⟩ := exists_forall₂_iff.mpr hall
  rw [← mapM_eq_ok_iff] at hids
  refine ⟨ids, ofIdentities_eq_ok_iff.mpr ⟨ids, hids, rfl⟩, fun n => ?_⟩
  rw [mem_of_mapM_eq_ok hids]
  refine exists_congr fun v => and_congr_right fun hv => ⟨fun h => ?_, hread v hv n⟩
  obtain ⟨m, hm⟩ := hvs v hv
  cases h.symm.trans (hread v hv m hm)
  exact hm

/-- A list fails as one of its members does. -/
theorem ofIdentities_eq_error {e : IdentityError} (h : ofIdentities vs = .error e) : ∃ v ∈ vs, named v = .error e := by
  rw [ofIdentities, map_eq_error_iff, mapM_eq_error] at h
  obtain ⟨before, v, after, rfl, -, hv⟩ := h
  exact ⟨v, List.mem_append_right before List.mem_cons_self, hv⟩

/-- A list with an identity that has no name is refused, wherever it stands. -/
theorem ofIdentities_refused {v : Value} (hv : v ∈ vs) (hnameless : Nameless v) :
    ∃ e, ofIdentities vs = .error e ∧ ((∀ v ∈ vs, Candidate v) → (Failure.identity e).kind = .invalidValue) := by
  obtain ⟨e, he⟩ := hnameless.refused
  cases h : ofIdentities vs with
  | ok f =>
    -- Every member of a list that is accepted is accepted itself.
    obtain ⟨ids, hids, -⟩ := ofIdentities_eq_ok_iff.mp h
    obtain ⟨m, hm⟩ := exists_forall₂_iff.mp ⟨ids, mapM_eq_ok_iff.mp hids⟩ v hv
    cases hm.symm.trans he
  | error e =>
    obtain ⟨w, hw, hrefused⟩ := ofIdentities_eq_error h
    exact ⟨e, rfl, fun hall => (hall w hw).kind_eq hrefused⟩

theorem candidates_of_given (hvs : ∀ v ∈ vs, ∃ n, GivenBy v n) : ∀ v ∈ vs, Candidate v := by
  intro v hv
  obtain ⟨n, hn⟩ := hvs v hv
  exact hn.candidate

/-- Two lists that mean the same identities, in whatever spelling, order and number, both make a filter or are both
refused as an invalid value, the latter if one of the identities has no name. The filters cannot be told apart, and
they pass the objects that have one of the identities. And any list with an identity that has no name is refused, as
an invalid value unless there is something in it that could not be meant for an identity. -/
theorem names_by_identities :
    (∀ vs ws, (∀ v ∈ vs, ∃ n, GivenBy v n) → (∀ w ∈ ws, ∃ n, GivenBy w n) → (∀ n, Meant vs n ↔ Meant ws n) →
      (∀ n, Meant vs n → n.name ≠ "") ∧
        (∃ f g, ofIdentities vs = .ok f ∧ ofIdentities ws = .ok g ∧ Interchangeable f g ∧
          ∀ v, f.accept v = true ↔ ∃ n, Meant vs n ∧ v.identity? = some n) ∨
      (∃ n, Meant vs n ∧ n.name = "") ∧
        ∃ e e', ofIdentities vs = .error e ∧ ofIdentities ws = .error e' ∧
          (Failure.identity e).kind = .invalidValue ∧ (Failure.identity e').kind = .invalidValue) ∧
    ∀ vs, ∀ v ∈ vs, Nameless v → ∃ e, ofIdentities vs = .error e ∧
      ((∀ v ∈ vs, Candidate v) → (Failure.identity e).kind = .invalidValue) := by
  refine ⟨fun vs ws hvs hws hsame => ?_, fun vs v => ofIdentities_refused⟩
  by_cases hnamed : ∀ n, Meant vs n → n.name ≠ ""
  · obtain ⟨ids, hids, hmem⟩ := ofIdentities_of_given hvs hnamed
    obtain ⟨ids', hids', hmem'⟩ := ofIdentities_of_given hws fun n hn => hnamed n ((hsame n).mpr hn)
    have hset : ∀ n, n ∈ ids ↔ n ∈ ids' := fun n => (hmem n).trans ((hsame n).trans (hmem' n).symm)
    refine .inl ⟨hnamed, _, _, hids, hids', interchangeable_names hset, fun v => ?_⟩
    simp only [names_accept_iff, hmem]
  · push Not at hnamed
    obtain ⟨n, hn, hname⟩ := hnamed
    obtain ⟨v, hv, hgiven⟩ := hn
    obtain ⟨w, hw, hgiven'⟩ := (hsame n).mp ⟨v, hv, hgiven⟩
    obtain ⟨e, he, hkind⟩ := ofIdentities_refused hv (.given hgiven hname)
    obtain ⟨e', he', hkind'⟩ := ofIdentities_refused hw (.given hgiven' hname)
    exact .inr ⟨⟨n, ⟨v, hv, hgiven⟩, hname⟩, e, e', he, he', hkind (candidates_of_given hvs),
      hkind' (candidates_of_given hws)⟩

/-- Two identities in three spellings and in two, in another order; and an empty name behind a good one and before
what is no spelling. -/
theorem names_by_identities_respelled :
    let vs : List Value := [.str "/dns", .identity ⟨"kube", "web"⟩, .tuple [.str "", .str "dns"]]
    let ws : List Value := [.list [.str "kube", .str "web"], .str "dns"]
    let us : List Value := [.str "dns", .str "kube/", .str "a/b/c"]
    (∀ n, Meant vs n ↔ Meant ws n) ∧
      (∃ f g, ofIdentities vs = .ok f ∧ ofIdentities ws = .ok g ∧ Interchangeable f g ∧
        ∀ v, f.accept v = true ↔ ∃ n, Meant vs n ∧ v.identity? = some n) ∧
      ∃ e, ofIdentities us = .error e ∧ (Failure.identity e).kind = .invalidValue := by
  intro vs ws us
  have first : GivenBy (.tuple [.str "", .str "dns"]) ⟨"", "dns"⟩ :=
    @GivenBy.pair _ (.str "") (.str "dns") (fun _ h => by cases h) rfl rfl rfl
  have second : GivenBy (.list [.str "kube", .str "web"]) ⟨"kube", "web"⟩ :=
    @GivenBy.pair _ (.str "kube") (.str "web") (fun _ h => by cases h) rfl rfl rfl
  have hvs : List.Forall₂ GivenBy vs [⟨"", "dns"⟩, ⟨"kube", "web"⟩, ⟨"", "dns"⟩] :=
    .cons (.text ⟨by decide, by decide, .inl (by decide)⟩) (.cons (.identity _) (.cons first .nil))
  have hws : List.Forall₂ GivenBy ws [⟨"kube", "web"⟩, ⟨"", "dns"⟩] :=
    .cons second (.cons (.text ⟨by decide, by decide, .inr ⟨rfl, rfl⟩⟩) .nil)
  have hunnamed : Nameless (.str "kube/") :=
    @Nameless.given _ ⟨"kube", ""⟩ (.text ⟨by decide, by decide, .inl (by decide)⟩) rfl
  have hsame : ∀ n, Meant vs n ↔ Meant ws n := fun n => by
    rw [meant_iff hvs, meant_iff hws]
    simp [or_comm]
  obtain ⟨alike, refused⟩ := names_by_identities
  refine ⟨hsame, ?_, ?_⟩
  · have each := exists_forall₂_iff.mp ⟨_, hvs⟩
    rcases alike vs ws each (exists_forall₂_iff.mp ⟨_, hws⟩) hsame with ⟨-, h⟩ | ⟨⟨n, hn, hname⟩, -⟩
    · exact h
    · have hnamed : ∀ n ∈ [(⟨"", "dns"⟩ : Identity), ⟨"kube", "web"⟩, ⟨"", "dns"⟩], n.name ≠ "" := by decide
      exact absurd hname (hnamed n ((meant_iff hvs).mp hn))
  · obtain ⟨e, he, hkind⟩ := refused us _ (by simp [us]) hunnamed
    exact ⟨e, he, hkind (by simp [us, Candidate, Value.iterate?])⟩

end Names

end Filter

end ObjectWatch
