import Screens.Proofs.Session.Run

/-! Which images an accepted pass has fetched.

A session is `Pursuing` if every image of the published tree that can be fetched, and
whose content is not at hand, is on its way. Publishing does not make it so: a pass
brings its tree up to date first, so an image whose fetch failed for an older pass is
marked failed and not asked for again. What holds is that an image is on its way exactly
if nothing was known of it, neither content nor failure. -/
namespace Screens.Session

/-- Every image of the published tree that can be fetched is at hand or on its way. -/
def Pursuing (fetchable : String → Bool) (s : Session) : Prop :=
  ∀ loader p, s.loader = some loader → s.published = some p →
    ∀ r ∈ p.tree.resources, ∀ url, r.remoteUrl? = some url → fetchable url = true →
      loader.content? url = none → (loader.inFlight.lookup url).isSome = true

/-- Once a drawn tree is accepted, an image that can be fetched is on its way exactly if
the cache had no result for it, a failure of whatever generation being one; and the
session is pursuing its images exactly if each of them was unknown or is at hand. -/
theorem publish_fetches_iff_unknown {fetchable : String → Bool} {s : Session}
    (hs : Reached fetchable s) {generation : UInt64} {tree : RenderTree} (ht : tree.Drawn)
    (ha : (s.publish fetchable generation tree).1 = true) :
    ∃ before after, s.loader = some before ∧
      (s.publish fetchable generation tree).2.loader = some after ∧
      (s.publish fetchable generation tree).2.published =
        some ⟨generation, before.annotate tree⟩ ∧
      (∀ r ∈ (before.annotate tree).resources, ∀ url, r.remoteUrl? = some url →
        fetchable url = true →
          ((after.inFlight.lookup url).isSome = true ↔ before.cache.get? url = none)) ∧
      (Pursuing fetchable (s.publish fetchable generation tree).2 ↔
        ∀ r ∈ (before.annotate tree).resources, ∀ url, r.remoteUrl? = some url →
          fetchable url = true →
            before.cache.get? url = none ∨ (after.content? url).isSome = true) := by
  obtain ⟨before, hb⟩ := hs.loader
  obtain ⟨hp, hl⟩ := publish_of_accepted hb ha
  have hiff : ∀ r ∈ (before.annotate tree).resources, ∀ url, r.remoteUrl? = some url →
      fetchable url = true →
      ((((fetchFor fetchable (before.annotate tree) generation before).inFlight.lookup url).isSome =
        true) ↔ before.cache.get? url = none) := by
    intro r hr url hu hf
    obtain ⟨old, hold, rfl⟩ := List.mem_map.1 hr
    rw [Loader.refreshed_remoteUrl?] at hu
    exact isSome_lookup_fetchFor (hs.coherent before hb) ht generation hold hu hf
  refine ⟨before, _, hb, hl, hp, hiff, ?_⟩
  constructor
  · intro h r hr url hu hf
    cases hcontent : Loader.content? _ url with
    | some content => exact .inr rfl
    | none => exact .inl ((hiff r hr url hu hf).1 (h _ _ hl hp r hr url hu hf hcontent))
  · intro h loader p hloader hpublished r hr url hu hf hcontent
    obtain rfl := Option.some.inj (hl.symm.trans hloader)
    obtain rfl := Option.some.inj (hp.symm.trans hpublished)
    rcases h r hr url hu hf with hunknown | hat
    · exact (hiff r hr url hu hf).2 hunknown
    · rw [hcontent] at hat
      cases hat

/-! ### A second pass after a failure -/

/-- A session whose first pass asked for an image that could not be had. -/
def afterFailure : Session :=
  run (fun _ => true) (start (some (.empty 1000)))
    [.publish 1 (gallery ["http://h/a.png"]),
      .finish "http://h/a.png" (.error (.unreachable "http://h/a.png"))]

theorem afterFailure_reached : Reached (fun _ => true) afterFailure := ⟨_, _, rfl⟩

/-- The second pass has a new image fetched, and not the one that failed. -/
theorem second_pass_fetches_new_image_only :
    (afterFailure.publish (fun _ => true) 2 (gallery ["http://h/a.png", "http://h/b.png"])).1 =
        true ∧
      ∃ after, (afterFailure.publish (fun _ => true) 2
          (gallery ["http://h/a.png", "http://h/b.png"])).2.loader = some after ∧
        (after.inFlight.lookup "http://h/b.png").isSome = true ∧
        ¬ (after.inFlight.lookup "http://h/a.png").isSome = true := by
  have ha : (afterFailure.publish (fun _ => true) 2
      (gallery ["http://h/a.png", "http://h/b.png"])).1 = true := by decide +kernel
  obtain ⟨before, after, hb, hl, _, hiff, _⟩ :=
    publish_fetches_iff_unknown afterFailure_reached (gallery_drawn _) ha
  have hknown : afterFailure.loader.map (fun loader => (loader.cache.get? "http://h/a.png").isSome) =
      some true := by decide +kernel
  have hunknown : afterFailure.loader.map (fun loader => loader.cache.get? "http://h/b.png") =
      some none := by decide +kernel
  rw [hb] at hknown hunknown
  have hfailed := hiff _ List.mem_cons_self "http://h/a.png"
    (Loader.refreshed_remoteUrl? before _) rfl
  have hnew := hiff _ (List.mem_cons_of_mem _ List.mem_cons_self) "http://h/b.png"
    (Loader.refreshed_remoteUrl? before _) rfl
  refine ⟨ha, after, hl, hnew.2 (Option.some.inj hunknown), fun h => ?_⟩
  have hnone := hfailed.1 h
  rw [Option.map_some, hnone] at hknown
  cases hknown

/-- An image that failed for the first pass is neither at hand nor on its way once the
second is accepted. -/
theorem failed_image_not_tried_again :
    Reached (fun _ => true) afterFailure ∧ (gallery ["http://h/a.png"]).Drawn ∧
      (afterFailure.publish (fun _ => true) 2 (gallery ["http://h/a.png"])).1 = true ∧
      ¬ Pursuing (fun _ => true)
        (afterFailure.publish (fun _ => true) 2 (gallery ["http://h/a.png"])).2 := by
  refine ⟨afterFailure_reached, gallery_drawn _, by decide +kernel, fun h => ?_⟩
  have hflight := h _ _ rfl rfl _ List.mem_cons_self "http://h/a.png" rfl rfl rfl
  revert hflight
  decide +kernel

end Screens.Session
