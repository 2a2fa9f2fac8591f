import Mathlib.Data.List.DropRight
import ObjectWatch.Identity

/-! Which texts spell identities. A text has a `/` or it has none; where it has one, the first one ends the
    namespace, and the rest is a name if it has no further one and is not empty. The text of an identity spells it,
    and so does this text behind a `/` where the namespace is empty; nothing else does. -/

namespace ObjectWatch.Identity

/-- A text spells an identity: namespace and name with `/` between them, or the bare name. -/
structure SpelledBy (s : String) (n : Identity) : Prop where
  named : n.name ≠ ""
  ns : '/' ∉ n.ns.toList
  name : '/' ∉ n.name.toList
  text : s = n.ns ++ "/" ++ n.name ∨ n.ns = "" ∧ s = n.name

/-- A text has at most one `/`, and the part behind it, or the whole text without one, is not empty. -/
def WellSpelled (s : String) : Prop :=
  s.toList.count '/' ≤ 1 ∧ s.toList.rtakeWhile (· ≠ '/') ≠ []

instance {s : String} : Decidable (WellSpelled s) :=
  inferInstanceAs (Decidable (_ ∧ _))

variable {s : String} {n : Identity} {a b : List Char}

/-! ### Texts with and without a slash -/

theorem plain_or_cut (s : String) : '/' ∉ s.toList ∨ ∃ a b, s.toList = a ++ '/' :: b ∧ '/' ∉ a := by
  by_cases h : '/' ∈ s.toList
  · exact .inr (List.eq_append_cons_of_mem h)
  · exact .inl h

theorem ne_slash_of_not_mem (h : '/' ∉ a) : ∀ c ∈ a, decide (c ≠ '/') = true :=
  fun _ hc => decide_eq_true fun heq => h (heq ▸ hc)

theorem parse?_plain (h : '/' ∉ s.toList) : parse? s = if s = "" then none else some ⟨"", s⟩ := by
  have hrest : s.toList.dropWhile (· ≠ '/') = [] := List.dropWhile_eq_nil_iff.mpr (ne_slash_of_not_mem h)
  unfold parse?
  simp only [hrest, List.isEmpty_iff, String.toList_eq_nil_iff]

theorem parse?_cut (hs : s.toList = a ++ '/' :: b) (ha : '/' ∉ a) :
    parse? s = if b = [] ∨ '/' ∈ b then none else some ⟨String.ofList a, String.ofList b⟩ := by
  have hrest : s.toList.dropWhile (· ≠ '/') = '/' :: b := by
    rw [hs, List.dropWhile_append_of_pos (ne_slash_of_not_mem ha)]
    rfl
  have hfirst : s.toList.takeWhile (· ≠ '/') = a := by
    rw [hs, List.takeWhile_append_of_pos (ne_slash_of_not_mem ha)]
    exact List.append_nil a
  unfold parse?
  simp only [hrest, hfirst, Bool.or_eq_true, List.isEmpty_iff, List.contains_iff_mem]

theorem spelledBy_plain (h : '/' ∉ s.toList) : SpelledBy s n ↔ s ≠ "" ∧ n = ⟨"", s⟩ := by
  constructor
  · intro hn
    rcases hn.text with rfl | ⟨hns, rfl⟩
    · exact absurd (by simp) h
    · exact ⟨hn.named, congrArg (Identity.mk · n.name) hns⟩
  · rintro ⟨hne, rfl⟩
    exact ⟨hne, List.not_mem_nil, h, .inr ⟨rfl, rfl⟩⟩

theorem spelledBy_cut (hs : s.toList = a ++ '/' :: b) (ha : '/' ∉ a) :
    SpelledBy s n ↔ ¬ (b = [] ∨ '/' ∈ b) ∧ n = ⟨String.ofList a, String.ofList b⟩ := by
  constructor
  · intro hn
    rcases hn.text with rfl | ⟨-, rfl⟩
    · have hparts : n.ns.toList ++ '/' :: n.name.toList = a ++ '/' :: b := by simpa using hs
      obtain ⟨hns, -, hname⟩ := (List.append_cons_inj_of_notMem hn.ns hn.name).mp hparts
      subst hns hname
      refine ⟨?_, by simp⟩
      rw [String.toList_eq_nil_iff, not_or]
      exact ⟨hn.named, hn.name⟩
    · exact absurd (hs ▸ List.mem_append_right a List.mem_cons_self) hn.name
  · rintro ⟨hb, rfl⟩
    rw [not_or] at hb
    refine ⟨?_, by simpa using ha, by simpa using hb.2, .inl ?_⟩
    · rw [ne_eq, ← String.toList_eq_nil_iff, String.toList_ofList]
      exact hb.1
    · rw [← String.toList_inj, hs]
      simp

theorem wellSpelled_plain (h : '/' ∉ s.toList) : WellSpelled s ↔ s ≠ "" := by
  rw [WellSpelled, List.rtakeWhile_eq_self_iff.mpr (ne_slash_of_not_mem h), List.count_eq_zero.mpr h, ne_eq,
    String.toList_eq_nil_iff]
  exact and_iff_right (Nat.zero_le 1)

theorem rtakeWhile_cut (hb : '/' ∉ b) : (a ++ '/' :: b).rtakeWhile (· ≠ '/') = b := by
  have hback : (a ++ '/' :: b).reverse = b.reverse ++ '/' :: a.reverse := by simp
  rw [List.rtakeWhile, hback, List.takeWhile_append_of_pos (ne_slash_of_not_mem (by simpa using hb))]
  simp

theorem wellSpelled_cut (hs : s.toList = a ++ '/' :: b) (ha : '/' ∉ a) :
    WellSpelled s ↔ ¬ (b = [] ∨ '/' ∈ b) := by
  have hcount : (a ++ '/' :: b).count '/' ≤ 1 ↔ '/' ∉ b := by
    rw [List.count_append, List.count_cons_self, List.count_eq_zero.mpr ha, ← List.count_eq_zero]
    omega
  rw [WellSpelled, hs, hcount, not_or, and_comm]
  exact and_congr_left fun hb => by rw [rtakeWhile_cut hb]

/-! ### What is spelled -/

theorem parse?_eq_some_iff : parse? s = some n ↔ SpelledBy s n := by
  rcases plain_or_cut s with h | ⟨a, b, hs, ha⟩
  · rw [parse?_plain h, spelledBy_plain h]
    split <;> simp_all [eq_comm]
  · rw [parse?_cut hs ha, spelledBy_cut hs ha]
    split <;> simp_all [eq_comm]

/-- A well spelled text spells an identity, and no other text does. -/
theorem exists_spelledBy_iff : (∃ n, SpelledBy s n) ↔ WellSpelled s := by
  rcases plain_or_cut s with h | ⟨a, b, hs, ha⟩
  · simp only [spelledBy_plain h, wellSpelled_plain h, exists_and_left, exists_eq, and_true]
  · simp only [spelledBy_cut hs ha, wellSpelled_cut hs ha, exists_and_left, exists_eq, and_true]

/-! ### Joined parts -/

/-- A text joins the parts of an identity with a `/`, which neither of them has; an empty namespace may be left out. -/
structure JoinedFrom (s : String) (n : Identity) : Prop where
  ns : '/' ∉ n.ns.toList
  name : '/' ∉ n.name.toList
  text : s = n.ns ++ "/" ++ n.name ∨ n.ns = "" ∧ s = n.name

theorem spelledBy_iff_joinedFrom : SpelledBy s n ↔ JoinedFrom s n ∧ n.name ≠ "" :=
  ⟨fun h => ⟨⟨h.ns, h.name, h.text⟩, h.named⟩, fun ⟨h, hnamed⟩ => ⟨hnamed, h.ns, h.name, h.text⟩⟩

/-- A text is joined from one identity only, since the `/` between two parts is the one that there is. -/
theorem JoinedFrom.unique {m : Identity} (h : JoinedFrom s n) (h' : JoinedFrom s m) : n = m := by
  have hsame : n.ns = m.ns ∧ n.name = m.name := by
    rcases h.text with hs | ⟨hempty, hs⟩
    · rcases h'.text with heq | ⟨-, heq⟩
      · have hparts : n.ns.toList ++ '/' :: n.name.toList = m.ns.toList ++ '/' :: m.name.toList := by
          simpa using congrArg String.toList (hs.symm.trans heq)
        obtain ⟨hfirst, -, hrest⟩ := (List.append_cons_inj_of_notMem h.ns h.name).mp hparts
        exact ⟨String.toList_inj.mp hfirst, String.toList_inj.mp hrest⟩
      · exact absurd (by simp [← heq, hs]) h'.name
    · rcases h'.text with heq | ⟨hempty', heq⟩
      · exact absurd (by simp [← hs, heq]) h.name
      · exact ⟨hempty.trans hempty'.symm, hs.symm.trans heq⟩
  cases n
  cases m
  simpa using hsame

/-! ### Texts of identities -/

/-- An identity without a `/` in it is spelled by its text. -/
theorem spelledBy_text (hnamed : n.name ≠ "") (hns : '/' ∉ n.ns.toList) (hname : '/' ∉ n.name.toList) :
    SpelledBy n.text n := by
  refine ⟨hnamed, hns, hname, ?_⟩
  rw [text]
  split
  · rename_i hempty
    exact .inr ⟨hempty, rfl⟩
  · exact .inl rfl

theorem SpelledBy.self (h : SpelledBy s n) : SpelledBy n.text n :=
  spelledBy_text h.named h.ns h.name

theorem SpelledBy.eq_text (h : SpelledBy s n) : s = n.text ∨ s = "/" ++ n.text := by
  rw [Identity.text]
  rcases h.text with rfl | ⟨hns, rfl⟩
  · split
    · rename_i hns
      rw [hns]
      exact .inr rfl
    · exact .inl rfl
  · rw [if_pos hns]
    exact .inl rfl

/-- The first character of a text is one of the namespace, or of the name where the namespace is empty. -/
theorem SpelledBy.text_ne_slash (h : SpelledBy s n) (t : String) : n.text ≠ "/" ++ t := by
  intro heq
  have hchars : n.text.toList = '/' :: t.toList := by rw [heq]; simp
  rw [Identity.text] at hchars
  split at hchars
  · exact h.name (hchars ▸ List.mem_cons_self)
  · rename_i hns
    obtain ⟨c, rest, hcs⟩ := List.exists_cons_of_ne_nil (mt String.toList_eq_nil_iff.mp hns)
    have hfirst : c = '/' := by simp_all
    exact h.ns (hcs ▸ hfirst ▸ List.mem_cons_self)

/-- The text of what a text spells is that text, without the `/` in front of it if it has one there. -/
theorem SpelledBy.text_eq (h : SpelledBy s n) :
    (∀ t, s = "/" ++ t → n.text = t) ∧ ((∀ t, s ≠ "/" ++ t) → n.text = s) := by
  rcases h.eq_text with rfl | rfl
  · exact ⟨fun t ht => absurd ht (h.text_ne_slash t), fun _ => rfl⟩
  · refine ⟨fun t ht => ?_, fun hplain => absurd rfl (hplain n.text)⟩
    simpa [← String.toList_inj] using ht

theorem parse?_text_of_parse? (h : parse? s = some n) : parse? n.text = some n :=
  parse?_eq_some_iff.mpr (parse?_eq_some_iff.mp h).self

/-- A text with one `/` at most and with something behind it spells an identity, and no other text does. What has a
name and no `/` in its parts is read back from its text. What a text spells is read back, too, and its text is the
first text again, without the `/` in front of it if there was one. So no two identities that are spelled have one
text. -/
theorem spelled_reads_back :
    (∀ s, (parse? s).isSome = true ↔ WellSpelled s) ∧
    (∀ n : Identity, '/' ∉ n.ns.toList → '/' ∉ n.name.toList → n.name ≠ "" → parse? n.text = some n) ∧
    (∀ s n, parse? s = some n → parse? n.text = some n ∧ (∀ t, s = "/" ++ t → n.text = t) ∧
      ((∀ t, s ≠ "/" ++ t) → n.text = s)) ∧
    ∀ s t n m, parse? s = some n → parse? t = some m → n.text = m.text → n = m := by
  refine ⟨fun s => ?_, fun n hns hname hnamed => ?_, fun s n h => ?_, fun s t n m hn hm htext => ?_⟩
  · rw [Option.isSome_iff_exists]
    simp only [parse?_eq_some_iff, exists_spelledBy_iff]
  · exact parse?_eq_some_iff.mpr (spelledBy_text hnamed hns hname)
  · exact ⟨parse?_text_of_parse? h, (parse?_eq_some_iff.mp h).text_eq⟩
  · have heq := parse?_text_of_parse? hn
    rw [htext, parse?_text_of_parse? hm] at heq
    exact (Option.some.inj heq).symm

/-- A slash in front is dropped, one in the middle is kept, and a second one or nothing behind it is refused. -/
theorem spelled_reads_back_slashed :
    let dns : Identity := ⟨"", "dns"⟩
    let web : Identity := ⟨"kube", "web"⟩
    dns.text = "dns" ∧ web.text = "kube/web" ∧ parse? dns.text = some dns ∧ parse? web.text = some web ∧
      ¬ (parse? "a/b/c").isSome = true ∧ ¬ (parse? "kube/").isSome = true := by
  intro dns web
  obtain ⟨accepted, printed, parsed, -⟩ := spelled_reads_back
  have slashed : parse? "/dns" = some dns := by decide +kernel
  have plain : parse? "kube/web" = some web := by decide +kernel
  refine ⟨(parsed _ _ slashed).2.1 "dns" rfl, (parsed _ _ plain).2.2 ?_, (parsed _ _ slashed).1, ?_, ?_, ?_⟩
  · intro t ht
    have hchars := congrArg String.toList ht
    simp at hchars
  · exact printed web (by decide) (by decide) (by decide)
  · exact mt (accepted "a/b/c").mp (by decide +kernel)
  · exact mt (accepted "kube/").mp (by decide +kernel)

end ObjectWatch.Identity
