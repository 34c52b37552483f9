import LogEgress.Proofs.Json.Record
import LogEgress.Proofs.Text.Utf8
import LogEgress.Scheduler.Paging

set_option autoImplicit false

/-! # A page is what its JSON says

The parts of a record that is read from an object are found under their keys, whatever else the
object has (`Json.FieldReader.Fills.record`). So a page has the applications and names the next page
that its object says (`pageSays_of_read`), and an application has the drains and the hostname of its
own object. Its applications are in the order of the octets of their ids (`Page.ids_ascending`), and
the number of the next page has 64 bits (`nextId_le_of_readPage`).
-/

namespace LogEgress.Scheduler.Paging

open Json (Members Reader FieldReader member?)

/-! ## Applications -/

/-- What an object says of the drains of an application. A part that it does not have is empty. -/
structure AppSays (ms : Members) (app : AppDrains) : Prop where
  drains : (member? ms "drains").elim (app.drains = [])
    fun v => v = .array (app.drains.map Json.Value.ofString)
  hostname : (member? ms "hostname").elim (app.hostname = "") fun v => v = .ofString app.hostname

theorem appFields_eq : appFields = [
    .part "drains" (·.drains) (Reader.list Reader.string) fun x s => { s with drains := some x },
    .part "hostname" (·.hostname) Reader.string fun x s => { s with hostname := some x }] := rfl

theorem fills_drains :
    FieldReader.Fills appFields "drains" (·.drains) (Reader.list Reader.string) := by
  rw [appFields_eq]
  refine .head (fun _ _ => rfl) (List.forall_mem_singleton.mpr ⟨by decide, ?_⟩)
  exact FieldReader.keeps_part (by intros; rfl) _ _ _

theorem fills_hostname :
    FieldReader.Fills appFields "hostname" (·.hostname) Reader.string := by
  rw [appFields_eq]
  refine FieldReader.Fills.tail ?_ (by decide) (FieldReader.keeps_part (by intros; rfl) _ _ _)
  exact .head (fun _ _ => rfl) fun _ hf => absurd hf List.not_mem_nil

theorem appSays_of_read {ms : Members} {app : AppDrains} (h : readApp (.object ms) = .ok app) :
    AppSays ms app := by
  obtain ⟨s, hs, happ⟩ := exists_of_bind_eq_ok h
  cases happ
  constructor
  · rcases fills_drains.record rfl hs with ⟨hnone, hget⟩ | ⟨v, ds, hv, hread, hget⟩
    · rw [hnone]
      show s.drains.getD [] = []
      rw [hget]
      rfl
    · rw [hv]
      show v = .array ((s.drains.getD []).map _)
      rw [hget]
      exact Reader.eq_array_of_list hread
  · rcases fills_hostname.record rfl hs with ⟨hnone, hget⟩ | ⟨v, name, hv, hread, hget⟩
    · rw [hnone]
      show s.hostname.getD "" = ""
      rw [hget]
      rfl
    · rw [hv]
      show v = .ofString (s.hostname.getD "")
      rw [hget]
      exact Reader.eq_ofString hread

/-! ## Pages -/

/-- What an object says of a page. It has the applications of the member with its results, each as
the last one of its id says, and names the next page by a number, if at all. -/
structure PageSays (ms : Members) (page : Page) : Prop where
  nextId : page.nextId = (member? ms "next_id").bind Json.Value.natural?
  results : (member? ms "results").elim (page.results = ∅) fun v => ∃ apps, v = .object apps ∧
    ∀ id, (member? apps.reverse id).elim (page.results.get? id = none) fun v =>
      ∃ app, page.results.get? id = some app ∧ ∀ ms, v = .object ms → AppSays ms app

theorem pageFields_eq : pageFields = [
    .part "results" (·.results) (Reader.map readApp) fun x s => { s with results := some x },
    .part "next_id" (·.nextId) (Reader.optional (Reader.natural Text.greatest64))
      fun x s => { s with nextId := some x }] := rfl

theorem fills_results :
    FieldReader.Fills pageFields "results" (·.results) (Reader.map readApp) := by
  rw [pageFields_eq]
  refine .head (fun _ _ => rfl) (List.forall_mem_singleton.mpr ⟨by decide, ?_⟩)
  exact FieldReader.keeps_part (by intros; rfl) _ _ _

theorem fills_nextId : FieldReader.Fills pageFields "next_id" (·.nextId)
    (Reader.optional (Reader.natural Text.greatest64)) := by
  rw [pageFields_eq]
  refine FieldReader.Fills.tail ?_ (by decide) (FieldReader.keeps_part (by intros; rfl) _ _ _)
  exact .head (fun _ _ => rfl) fun _ hf => absurd hf List.not_mem_nil

/-- **A page is what its object says.** -/
theorem pageSays_of_read {ms : Members} {page : Page} (h : readPage (.object ms) = .ok page) :
    PageSays ms page := by
  obtain ⟨s, hs, hpage⟩ := exists_of_bind_eq_ok h
  cases hpage
  constructor
  · show s.nextId.getD none = _
    rcases fills_nextId.record rfl hs with ⟨hnone, hget⟩ | ⟨v, id?, hv, hread, hget⟩
    · rw [hnone, hget]
      rfl
    · rw [hv, hget]
      exact Reader.natural?_of_optional hread
  · show (member? ms "results").elim (s.results.getD {} = ∅) fun v => ∃ apps, v = .object apps ∧
      ∀ id, (member? apps.reverse id).elim ((s.results.getD {}).get? id = none) fun v =>
        ∃ app, (s.results.getD {}).get? id = some app ∧ ∀ ms, v = .object ms → AppSays ms app
    rcases fills_results.record rfl hs with ⟨hnone, hget⟩ | ⟨v, results, hv, hread, hget⟩
    · rw [hnone, hget]
      rfl
    · rw [hv, hget]
      obtain ⟨apps, rfl⟩ := Reader.exists_object_of_map hread
      refine ⟨apps, rfl, fun id => ?_⟩
      rcases Reader.get?_of_map hread id with ⟨hnone, hid⟩ | ⟨v, app, hv, happ, hid⟩
      · rw [hnone]
        exact hid
      · rw [hv]
        exact ⟨app, hid, fun ms hobject => appSays_of_read (hobject ▸ happ)⟩

/-- The number of the next page that was read, if any, has 64 bits. -/
def PageParts.Bounded (s : PageParts) : Prop := ∀ id? ∈ s.nextId, ∀ id ∈ id?, id ≤ Text.greatest64

theorem bounded_of_field : ∀ f ∈ pageFields, ∀ (v : Json.Value) (s s' : PageParts),
    s.Bounded → f.read v s = .ok s' → s'.Bounded := by
  refine List.forall_mem_cons.mpr ⟨?_, List.forall_mem_singleton.mpr ?_⟩
  · intro v s s' hs h
    obtain ⟨results, -, h⟩ := exists_of_bind_eq_ok h
    cases h
    exact hs
  · intro v s s' hs h
    obtain ⟨id?, hread, h⟩ := exists_of_bind_eq_ok h
    cases h
    intro found hfound id hid
    obtain rfl := Option.some.inj hfound
    unfold Reader.optional at hread
    split at hread
    · cases hread
      cases hid
    · obtain ⟨n, hn, rfl⟩ := exists_of_map_eq_ok hread
      cases hid
      exact Reader.le_of_natural hn

theorem nextId_le_of_readPage {v : Json.Value} {page : Page} (h : readPage v = .ok page) :
    ∀ id ∈ page.nextId, id ≤ Text.greatest64 := by
  obtain ⟨s, hrecord, h⟩ := exists_of_bind_eq_ok h
  have hbounded : s.Bounded :=
    FieldReader.of_record bounded_of_field (fun _ h => by cases h) hrecord
  split at h
  · cases h
  · cases h
    intro id hid
    cases hnext : s.nextId with
    | none =>
      rw [hnext] at hid
      cases hid
    | some id? =>
      rw [hnext] at hid
      exact hbounded id? hnext id hid

/-- The applications of a page are in the order of the octets of their ids. -/
theorem Page.ids_ascending (page : Page) :
    (page.results.keys.map fun id => utf8 id.toList).Pairwise (· < ·) := by
  rw [List.pairwise_map]
  exact page.results.ascending.imp fun h => Utf8.utf8_lt_utf8 h

end LogEgress.Scheduler.Paging
