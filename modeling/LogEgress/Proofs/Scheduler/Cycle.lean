import LogEgress.Proofs.Scheduler.Paging
import Mathlib.Algebra.Ring.Nat
import Mathlib.Data.Finset.Card
import Mathlib.Data.Nat.Find

set_option autoImplicit false

/-! # When a fetch page by page ends

A provider that always gives the same page for a number decides how far a fetch goes: the pages form
a chain, from page 0 to the page that each one names (`visit`). The fetch walks along the chain and
keeps no list of where it was. If the chain has an end the fetch ends there. Since there are only
2⁶⁴ numbers, a chain without an end comes back to a page that it was at before; then the fetch goes
round for ever, and so does the term that waits for it.

The main theorem, `fetch_ends_iff_no_page_twice`, says that a fetch ends just if it asks for no page
twice.
-/

namespace LogEgress.Scheduler.Paging

/-! ## Chains of pages -/

/-- The number by which a page names another one. The number zero stands for none. -/
def Page.next? (page : Page) : Option Nat := if page.nextId = some 0 then none else page.nextId

theorem Page.next?_eq_some_iff {page : Page} {id : Nat} :
    page.next? = some id ↔ page.nextId = some id ∧ id ≠ 0 := by
  unfold next?
  by_cases h : page.nextId = some 0
  · rw [if_pos h, h]
    exact ⟨nofun, fun ⟨hid, hne⟩ => absurd (Option.some.inj hid).symm hne⟩
  · rw [if_neg h]
    exact ⟨fun hid => ⟨hid, fun hzero => h (hzero ▸ hid)⟩, And.left⟩

theorem Page.isLast_iff_next? {page : Page} : page.IsLast ↔ page.next? = none := by
  unfold IsLast next?
  by_cases h : page.nextId = some 0
  · simp [h]
  · simp [h]

/-- The number of the page that is a number of steps down the chain; none if the chain is not that
long. -/
def visit (page : Nat → Page) : Nat → Option Nat
  | 0 => some 0
  | k + 1 => (visit page k).bind fun id => (page id).next?

/-- The numbers of the first pages of the chain. -/
def visited (page : Nat → Page) (n : Nat) : List Nat := (List.range n).filterMap (visit page)

section Chain

variable {page : Nat → Page}

theorem visited_succ (page : Nat → Page) (n : Nat) :
    visited page (n + 1) = visited page n ++ (visit page n).toList := by
  rw [visited, visited, List.range_succ, List.filterMap_append, List.filterMap_cons]
  cases visit page n <;> rfl

/-- Nothing comes after the end of a chain. -/
theorem visit_eq_none_of_le {m n : Nat} (h : visit page m = none) (hmn : m ≤ n) :
    visit page n = none := by
  induction n, hmn using Nat.le_induction with
  | base => exact h
  | succ n _ ih => rw [visit, ih, Option.bind_none]

/-- What comes after a page is the same wherever it stands in the chain. -/
theorem visit_add_of_eq {i j : Nat} (h : visit page i = visit page j) (k : Nat) :
    visit page (i + k) = visit page (j + k) := by
  induction k with
  | zero => exact h
  | succ k ih => rw [← Nat.add_assoc, ← Nat.add_assoc, visit, visit, ih]

/-- **A chain with an end is at no page twice**: from a page that comes again the chain would go on
as it did from where it was first, and not end. -/
theorem eq_of_visit_eq {m : Nat} (hend : visit page m = none) {i j id : Nat}
    (hi : visit page i = some id) (hj : visit page j = some id) : i = j := by
  have hex : ∃ m, visit page m = none := ⟨m, hend⟩
  have key {i j : Nat} (hi : visit page i = some id) (hj : visit page j = some id) : ¬ i < j := by
    intro hlt
    have hlater : j < Nat.find hex := by
      by_contra hle
      rw [visit_eq_none_of_le (Nat.find_spec hex) (Nat.le_of_not_lt hle)] at hj
      cases hj
    -- As far behind the earlier place as the first end is behind the later one is an end, too.
    have hsame := visit_add_of_eq (hi.trans hj.symm) (Nat.find hex - j)
    rw [Nat.add_sub_cancel' (Nat.le_of_lt hlater), Nat.find_spec hex] at hsame
    exact Nat.find_min hex (by omega) hsame
  exact Nat.le_antisymm (Nat.le_of_not_lt (key hj hi)) (Nat.le_of_not_lt (key hi hj))

theorem nodup_visited {m : Nat} (hend : visit page m = none) (n : Nat) :
    (visited page n).Nodup :=
  List.nodup_range.filterMap fun _ _ _ hi hj => eq_of_visit_eq hend hi hj

/-- A chain of numbers below a bound that has an end has no more pages than that. -/
theorem length_visited_le {bound m : Nat} (hbound : ∀ k, ∀ id ∈ visit page k, id < bound)
    (hend : visit page m = none) (n : Nat) : (visited page n).length ≤ bound := by
  have hsub : visited page n ⊆ List.range bound := by
    intro id hid
    obtain ⟨k, -, hk⟩ := List.mem_filterMap.mp hid
    exact List.mem_range.mpr (hbound k id hk)
  have hlength := (List.subperm_of_subset (nodup_visited hend n) hsub).length_le
  rwa [List.length_range] at hlength

/-- A chain of numbers below a bound that is longer than that comes back to a page. -/
theorem exists_visit_eq {bound : Nat} (hbound : ∀ k, ∀ id ∈ visit page k, id < bound)
    (hlong : visit page bound ≠ none) :
    ∃ i j id, i < j ∧ j ≤ bound ∧ visit page i = some id ∧ visit page j = some id := by
  have hsome : ∀ k ∈ Finset.range (bound + 1), ∃ id, visit page k = some id := fun k hk =>
    Option.ne_none_iff_exists'.mp fun hnone =>
      hlong (visit_eq_none_of_le hnone (Nat.le_of_lt_succ (Finset.mem_range.mp hk)))
  choose! f hf using hsome
  have hmaps : ∀ k ∈ Finset.range (bound + 1), f k ∈ Finset.range bound := fun k hk =>
    Finset.mem_range.mpr (hbound k (f k) (hf k hk))
  -- There is one more place than there are numbers.
  have hcard : (Finset.range bound).card < (Finset.range (bound + 1)).card := by
    rw [Finset.card_range, Finset.card_range]
    exact Nat.lt_succ_self bound
  obtain ⟨i, hi, j, hj, hne, hsame⟩ := Finset.exists_ne_map_eq_of_card_lt_of_maps_to hcard hmaps
  have hvisit := hsame ▸ hf i hi
  rw [Finset.mem_range, Nat.lt_succ_iff] at hi hj
  rcases Nat.lt_or_gt_of_ne hne with hlt | hlt
  · exact ⟨i, j, f j, hlt, hj, hvisit, hf j (by simpa using Nat.lt_succ_of_le hj)⟩
  · exact ⟨j, i, f j, hlt, hi, hf j (by simpa using Nat.lt_succ_of_le hj), hvisit⟩

/-- From a page that comes again on the chain goes round for ever. -/
theorem visit_round {i j id : Nat} (hij : i < j) (hi : visit page i = some id)
    (hj : visit page j = some id) {k : Nat} (hk : i ≤ k) :
    ∃ id, visit page k = some id ∧ visit page (k + (j - i)) = some id := by
  have hsame : visit page (k + (j - i)) = visit page k := by
    have hshift := visit_add_of_eq (hi.trans hj.symm) (k - i)
    rw [show i + (k - i) = k by omega, show j + (k - i) = k + (j - i) by omega] at hshift
    exact hshift.symm
  cases hvisit : visit page k with
  | some id => exact ⟨id, rfl, hsame.trans hvisit⟩
  | none => exact absurd (eq_of_visit_eq hvisit hi hj) (Nat.ne_of_lt hij)

theorem mem_visited {i n id : Nat} (hi : visit page i = some id) (hin : i < n) :
    id ∈ visited page n :=
  List.mem_filterMap.mpr ⟨i, List.mem_range.mpr hin, hi⟩

theorem not_nodup_visited {i j id : Nat} (hij : i < j) (hi : visit page i = some id)
    (hj : visit page j = some id) : ¬ (visited page (j + 1)).Nodup := by
  rw [visited_succ, hj]
  exact fun h => List.disjoint_of_nodup_append h (mem_visited hi hij) (List.mem_singleton_self id)

/-- The pages before a place in the chain. -/
def pagesTo (page : Nat → Page) (n : Nat) : List Page := (visited page n).map page

theorem pagesTo_succ (page : Nat → Page) (n : Nat) :
    pagesTo page (n + 1) = pagesTo page n ++ ((visit page n).map page).toList := by
  rw [pagesTo, visited_succ, List.map_append]
  cases visit page n <;> rfl

/-- A page is asked for because the one before it names it. -/
theorem requested_pagesTo {n : Nat} (h : visit page n ≠ none) :
    requested (pagesTo page n) = visited page (n + 1) := by
  induction n with
  | zero => rfl
  | succ n ih =>
    obtain ⟨next, hnext⟩ := Option.ne_none_iff_exists'.mp h
    obtain ⟨id, hid, hname⟩ := Option.bind_eq_some_iff.mp hnext
    have hbefore := ih (hid ▸ Option.some_ne_none id)
    rw [visited_succ, ← hbefore, hnext, pagesTo_succ, hid, requested, List.filterMap_append]
    simp [requested, (Page.next?_eq_some_iff.mp hname).1]

end Chain

/-! ## Fetches along a chain -/

/-- The answers in the first exchanges with a provider that has one answer for each number. -/
def conversation (serve : Nat → Http.Outcome) : Nat → List Http.Outcome
  | 0 => []
  | n + 1 =>
    match fetchFrom {} (conversation serve n) with
    | (none, ids) => conversation serve n ++ (ids.getLast?.map serve).toList
    | (some _, _) => conversation serve n

/-- What follows the answers that a fetch went on with does not change these. -/
theorem Leads.append {answers rest : List Http.Outcome} {pages : List Page}
    (h : Leads answers pages rest) (more : List Http.Outcome) :
    Leads (answers ++ more) pages (rest ++ more) := by
  induction h with
  | nil rest => exact .nil _
  | cons hgives hnext hne _ ih => exact .cons hgives hnext hne ih

theorem Leads.trans {answers rest rest' : List Http.Outcome} {pages pages' : List Page}
    (h : Leads answers pages rest) (h' : Leads rest pages' rest') :
    Leads answers (pages ++ pages') rest' := by
  induction h with
  | nil rest => exact h'
  | cons hgives hnext hne _ ih => exact .cons hgives hnext hne (ih h')

section Conversation

variable {serve : Nat → Http.Outcome} {page : Nat → Page}

/-- While the chain goes on so does the fetch: it waits for the answer to its last request. -/
theorem fetchFrom_of_leads_pagesTo {n : Nat} (h : visit page n ≠ none)
    (hleads : Leads (conversation serve n) (pagesTo page n) []) :
    fetchFrom {} (conversation serve n) = (none, visited page (n + 1)) := by
  rw [fetchFrom_waiting hleads, requested_pagesTo h]

/-- The next answer is that to the number where the chain is. -/
theorem conversation_succ {n id : Nat} (h : visit page n = some id)
    (hleads : Leads (conversation serve n) (pagesTo page n) []) :
    conversation serve (n + 1) = conversation serve n ++ [serve id] := by
  have hlast : (visited page (n + 1)).getLast? = some id := by
    rw [visited_succ, h]
    exact List.getLast?_concat
  rw [conversation, fetchFrom_of_leads_pagesTo (h ▸ Option.some_ne_none id) hleads]
  simp only
  rw [hlast]
  rfl

variable (hgives : ∀ id ≤ Text.greatest64, Gives (serve id) (page id))

include hgives

/-- The numbers in a chain have 64 bits. -/
theorem visit_le (k : Nat) : ∀ id ∈ visit page k, id ≤ Text.greatest64 := by
  induction k with
  | zero =>
    rintro id ⟨⟩
    exact Nat.zero_le _
  | succ k ih =>
    intro id hid
    obtain ⟨before, hbefore, hid⟩ := Option.bind_eq_some_iff.mp hid
    exact (hgives before (ih before hbefore)).nextId_le id (Page.next?_eq_some_iff.mp hid).1

theorem visit_lt (k : Nat) : ∀ id ∈ visit page k, id < 2 ^ 64 := fun id hid =>
  Nat.lt_succ_of_le (visit_le hgives k id hid)

/-- The answers along the chain lead on as long as it does. The induction is on its length. -/
theorem leads_conversation {n : Nat} (h : visit page n ≠ none) :
    Leads (conversation serve n) (pagesTo page n) [] := by
  induction n with
  | zero => exact .nil []
  | succ n ih =>
    obtain ⟨next, hnext⟩ := Option.ne_none_iff_exists'.mp h
    obtain ⟨id, hid, hname⟩ := Option.bind_eq_some_iff.mp hnext
    have hbefore := ih (hid ▸ Option.some_ne_none id)
    obtain ⟨hpage, hne⟩ := Page.next?_eq_some_iff.mp hname
    have hstep : Leads [serve id] [page id] [] :=
      .cons (hgives id (visit_le hgives n id hid)) hpage hne (.nil [])
    rw [conversation_succ hid hbefore, pagesTo_succ, hid]
    exact (hbefore.append [serve id]).trans hstep

/-- **How far a fetch is after some exchanges**: it has asked for the pages of the chain that far,
and has its result if the chain has ended by then. -/
theorem fetchFrom_conversation (n : Nat) : fetchFrom {} (conversation serve n) =
    (if visit page n = none then some (.ok (gathered (pagesTo page n))) else none,
      visited page (n + 1)) := by
  induction n with
  | zero => rfl
  | succ n ih =>
    cases hnext : visit page (n + 1) with
    | some next =>
      have hgoes : visit page (n + 1) ≠ none := hnext ▸ Option.some_ne_none next
      rw [fetchFrom_of_leads_pagesTo hgoes (leads_conversation hgives hgoes)]
      rfl
    | none =>
      cases hid : visit page n with
      | none =>
        -- The fetch was over before.
        rw [if_pos hid] at ih
        have hsame : conversation serve (n + 1) = conversation serve n := by
          rw [conversation, ih]
        rw [hsame, ih, if_pos rfl, pagesTo_succ, hid, visited_succ page (n + 1), hnext]
        simp
      | some id =>
        -- The answer to the last request names no page.
        have hgoes : visit page n ≠ none := hid ▸ Option.some_ne_none id
        have hleads := leads_conversation hgives hgoes
        have hpage := hgives id (visit_le hgives n id hid)
        have hlast : (page id).IsLast := by
          rw [Page.isLast_iff_next?, ← hnext, visit, hid]
          rfl
        have hend := fetchFrom_complete (hleads.append [serve id]) hpage hlast
        rw [conversation_succ hid hleads, hend, if_pos rfl, pagesTo_succ, hid,
          requested_pagesTo hgoes, visited_succ page (n + 1), hnext]
        simp

/-- Each page of the chain is answered for once in its turn. -/
theorem conversation_eq (n : Nat) : conversation serve n = (visited page n).map serve := by
  induction n with
  | zero => rfl
  | succ n ih =>
    cases hid : visit page n with
    | none =>
      rw [conversation, fetchFrom_conversation hgives, if_pos hid, ih, visited_succ, hid]
      simp
    | some id =>
      have hgoes : visit page n ≠ none := hid ▸ Option.some_ne_none id
      rw [conversation_succ hid (leads_conversation hgives hgoes), ih, visited_succ, hid]
      simp

end Conversation

/-! ## When a fetch ends -/

/-- Requests for different pages differ. -/
theorem Provider.ask_injective (p : Provider) (u : Url) : Function.Injective (p.ask u) := by
  intro id id' h
  have htarget := congrArg (String.toList ∘ Http.Request.target) h
  simp only [Function.comp, Provider.ask, String.toList_append] at htarget
  have hdigits := List.append_cancel_left htarget
  rw [Nat.toString_eq_repr, Nat.toString_eq_repr, Nat.toList_repr, Nat.toList_repr] at hdigits
  have hnumber := congrArg (Nat.ofDigitChars 10 · 0) hdigits
  simpa only [Nat.ofDigitChars_ten_toDigits] using hnumber

/-- What is true of a fetch from a provider that always gives the same page for a number. -/
structure ChainLaw (p : Provider) (u : Url) (serve : Nat → Http.Outcome)
    (page : Nat → Page) : Prop where
  /-- It is answered with the pages of the chain. -/
  answers_eq : ∀ n, conversation serve n = (visited page n).map serve
  /-- It asks for these in their order, and for nothing else. -/
  requests_eq : ∀ n, (fetch p (conversation serve n)).2 = (visited page (n + 1)).map (p.ask u)
  /-- It ends just if it asks for no page twice. -/
  ends_iff : (∃ n, (fetch p (conversation serve n)).1 ≠ none) ↔
    ∀ n, (fetch p (conversation serve n)).2.Nodup
  /-- It ends with the bindings of all pages of the chain. -/
  result_eq : ∀ n r, (fetch p (conversation serve n)).1 = some r →
    visit page n = none ∧ ∃ f, r = .ok f ∧ Gathers (pagesTo page n) f
  /-- If it asks for no page twice, it ends with the answer to its 2⁶⁴th request or before. -/
  in_time : (∀ n, (fetch p (conversation serve n)).2.Nodup) →
    (fetch p (conversation serve (2 ^ 64))).1 ≠ none ∧
      ∀ n, (fetch p (conversation serve n)).2.length ≤ 2 ^ 64
  /-- If it asks for a page twice, it asks for the same pages again and again from there on. -/
  round : (∃ n, ¬ (fetch p (conversation serve n)).2.Nodup) →
    ∃ i j, i < j ∧ j ≤ 2 ^ 64 ∧ ∀ k, i ≤ k →
      ∃ id, visit page k = some id ∧ visit page (k + (j - i)) = some id
  /-- Then the term that waits for it never goes on. -/
  no_term : (∃ n, ¬ (fetch p (conversation serve n)).2.Nodup) →
    ∀ {σ : Type} (srv : Server σ) (deadlines : Deadlines) (s : State σ) (n : Nat),
      (fetch p (conversation serve n)).1.map (term srv deadlines · s) = none

section Law

variable {p : Provider} {u : Url} {serve : Nat → Http.Outcome} {page : Nat → Page}
  (hreaches : p.Reaches u)
  (hgives : ∀ id ≤ Text.greatest64, Gives (serve id) (page id))

include hreaches hgives

theorem fetch_conversation (n : Nat) : fetch p (conversation serve n) =
    (if visit page n = none then some (.ok (gathered (pagesTo page n))) else none,
      (visited page (n + 1)).map (p.ask u)) := by
  rw [fetch_eq hreaches, fetchFrom_conversation hgives]

theorem fetch_ne_none_iff (n : Nat) :
    (fetch p (conversation serve n)).1 ≠ none ↔ visit page n = none := by
  rw [fetch_conversation hreaches hgives]
  by_cases h : visit page n = none
  · simp [h]
  · simp [h]

theorem nodup_requests_iff (n : Nat) :
    (fetch p (conversation serve n)).2.Nodup ↔ (visited page (n + 1)).Nodup := by
  rw [fetch_conversation hreaches hgives]
  exact List.nodup_map_iff (p.ask_injective u)

/-- A fetch that asks for no page twice has come to the end of the chain after 2⁶⁴ pages. -/
theorem visit_eq_none_of_nodup (h : ∀ n, (fetch p (conversation serve n)).2.Nodup) :
    visit page (2 ^ 64) = none := by
  by_contra hlong
  obtain ⟨i, j, id, hij, -, hi, hj⟩ := exists_visit_eq (visit_lt hgives) hlong
  exact not_nodup_visited hij hi hj ((nodup_requests_iff hreaches hgives j).mp (h j))

theorem nodup_of_end {m : Nat} (h : visit page m = none) (n : Nat) :
    (fetch p (conversation serve n)).2.Nodup :=
  (nodup_requests_iff hreaches hgives n).mpr (nodup_visited h (n + 1))

/-- A fetch that asks for a page twice is on a chain without an end. -/
theorem visit_ne_none_of_twice (h : ∃ n, ¬ (fetch p (conversation serve n)).2.Nodup) (m : Nat) :
    visit page m ≠ none := by
  obtain ⟨n, hn⟩ := h
  exact fun hend => hn (nodup_of_end hreaches hgives hend n)

theorem chain_lawful : ChainLaw p u serve page where
  answers_eq := conversation_eq hgives
  requests_eq n := congrArg Prod.snd (fetch_conversation hreaches hgives n)
  ends_iff := by
    constructor
    · rintro ⟨m, hm⟩
      exact nodup_of_end hreaches hgives ((fetch_ne_none_iff hreaches hgives m).mp hm)
    · intro h
      have hend := visit_eq_none_of_nodup hreaches hgives h
      exact ⟨2 ^ 64, (fetch_ne_none_iff hreaches hgives _).mpr hend⟩
  result_eq n r h := by
    rw [fetch_conversation hreaches hgives] at h
    simp only at h
    split at h
    · next hend => exact ⟨hend, _, (Option.some.inj h).symm, gathers_iff.mpr rfl⟩
    · cases h
  in_time h := by
    have hend := visit_eq_none_of_nodup hreaches hgives h
    refine ⟨(fetch_ne_none_iff hreaches hgives _).mpr hend, fun n => ?_⟩
    rw [fetch_conversation hreaches hgives, List.length_map]
    exact length_visited_le (visit_lt hgives) hend (n + 1)
  round h := by
    obtain ⟨i, j, id, hij, hle, hi, hj⟩ :=
      exists_visit_eq (visit_lt hgives) (visit_ne_none_of_twice hreaches hgives h _)
    exact ⟨i, j, hij, hle, fun k hk => visit_round hij hi hj hk⟩
  no_term h := by
    intro σ srv deadlines s n
    rw [fetch_conversation hreaches hgives, if_neg (visit_ne_none_of_twice hreaches hgives h n)]
    rfl

end Law

/-- **A fetch ends just if it asks for no page twice.** A provider that always gives the same page
for a number makes it ask for page 0, and then for the page that each one names. If this comes to an
end the fetch gives what all of the pages make up. If it comes back to a page, neither the fetch nor
the term that waits for it ever ends. Where no page can be asked for, the fetch fails at once. -/
theorem fetch_ends_iff_no_page_twice (p : Provider) (serve : Nat → Http.Outcome)
    (page : Nat → Page) (hgives : ∀ id ≤ Text.greatest64, Gives (serve id) (page id)) :
    (∀ u, p.Reaches u → ChainLaw p u serve page) ∧
      ((¬ ∃ u, p.Reaches u) → ∃ f, p.request 0 = .error f ∧
        ∀ n, fetch p (conversation serve n) = (some (.error (.http f.message)), [])) := by
  refine ⟨fun u h => chain_lawful h hgives, fun h => ?_⟩
  obtain ⟨f, hf⟩ := exists_request_eq_error h
  exact ⟨f, hf, fun n => fetch_of_error hf _⟩

/-- An answer with a page that names another one. -/
def naming (next : String) : Http.Outcome :=
  .answered ⟨200, none, utf8 ("\x7b\"next_id\":" ++ next ++ "\x7d").toList⟩

/-- The second page is the last one. -/
theorem fetch_ends_at_page_seven :
    let p : Provider := ⟨"http://provider/", 10⟩
    let serve : Nat → Http.Outcome := fun id => naming (if id = 0 then "7" else "null")
    (∃ u page, p.Reaches u ∧ ChainLaw p u serve page) ∧
      (fetch p (conversation serve 1)).1.map Except.isOk = none ∧
      (fetch p (conversation serve 2)).1.map Except.isOk = some true := by
  intro p serve
  have hfirst : (pageOf (naming "7")).map (·.nextId) = .ok (some 7) := by decide +kernel
  have hlast : (pageOf (naming "null")).map (·.nextId) = .ok none := by decide +kernel
  obtain ⟨first, hfirst, -⟩ := exists_of_map_eq_ok hfirst
  obtain ⟨last, hlast, -⟩ := exists_of_map_eq_ok hlast
  have hgives : ∀ id ≤ Text.greatest64, Gives (serve id) (if id = 0 then first else last) := by
    intro id _
    by_cases hid : id = 0
    · simp only [serve, if_pos hid]
      exact gives_of_pageOf hfirst
    · simp only [serve, if_neg hid]
      exact gives_of_pageOf hlast
  obtain ⟨u, hreaches⟩ : ∃ u, p.Reaches u := Provider.exists_reaches (by decide +kernel)
  exact ⟨⟨u, _, hreaches, (fetch_ends_iff_no_page_twice p serve _ hgives).1 u hreaches⟩,
    by decide +kernel, by decide +kernel⟩

/-- **A fetch may go round for ever.** A provider that always names page 7 is asked for it twice
after page 0 and has not answered enough after any number of answers. -/
theorem fetch_never_ends_at_page_seven :
    let p : Provider := ⟨"http://provider/", 10⟩
    let serve : Nat → Http.Outcome := fun _ => naming "7"
    (∃ page : Page, ∀ id, Gives (serve id) page) ∧
      (fetch p (conversation serve 2)).2.map (·.target) = [
        "/internal/v4/syslog_drain_urls?batch_size=10&next_id=0",
        "/internal/v4/syslog_drain_urls?batch_size=10&next_id=7",
        "/internal/v4/syslog_drain_urls?batch_size=10&next_id=7"] ∧
      ¬ (fetch p (conversation serve 2)).2.Nodup ∧
      ∀ n, (fetch p (conversation serve n)).1 = none := by
  intro p serve
  have hread : (pageOf (naming "7")).map (·.nextId) = .ok (some 7) := by decide +kernel
  obtain ⟨page, hpage, hnext⟩ := exists_of_map_eq_ok hread
  have hgives : Gives (naming "7") page := gives_of_pageOf hpage
  refine ⟨⟨page, fun _ => hgives⟩, by decide +kernel, by decide +kernel, fun n => ?_⟩
  obtain ⟨u, hreaches⟩ : ∃ u, p.Reaches u := Provider.exists_reaches (by decide +kernel)
  have hchain : ∀ k, visit (fun _ => page) k ≠ none := by
    intro k
    induction k with
    | zero => exact Option.some_ne_none 0
    | succ k ih =>
      obtain ⟨id, hid⟩ := Option.ne_none_iff_exists'.mp ih
      rw [visit, hid, Option.bind_some, Page.next?, hnext]
      decide
  have hsame : ∀ id ≤ Text.greatest64, Gives (serve id) ((fun _ => page) id) := fun _ _ => hgives
  rw [fetch_conversation hreaches hsame, if_neg (hchain n)]

end LogEgress.Scheduler.Paging
