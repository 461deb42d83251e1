import Screens.Proofs.Session.Run

/-! What an accepted pass aborts.

Every fetch on its way was asked for by a pass that was out, so it carries no newer
generation than what is out now (`Current`). A newer pass raises the fetches its own tree
needs to its generation, and those alone: an image on its way is never one that is known,
so bringing the tree up to date leaves it to be asked for. What stays behind is aborted. -/
namespace Screens

/-- The URLs of the remote resources of a tree. -/
def RenderTree.remoteUrls (tree : RenderTree) : List String :=
  tree.resources.filterMap Resource.remoteUrl?

namespace Loader

variable {loader : Loader}

theorem remoteUrls_annotate (loader : Loader) (tree : RenderTree) :
    (loader.annotate tree).remoteUrls = tree.remoteUrls := by
  show ((tree.resources.map loader.refreshed).filterMap Resource.remoteUrl?) = _
  rw [List.filterMap_map]
  exact congrArg (tree.resources.filterMap ·) (funext loader.refreshed_remoteUrl?)

theorem wanted_subset (resources : List Resource) :
    wanted resources ⊆ resources.filterMap Resource.remoteUrl? := by
  intro url hu
  obtain ⟨r, hr, hw⟩ := List.mem_filterMap.1 hu
  split at hw
  · exact List.mem_filterMap.2 ⟨r, hr, hw⟩
  · cases hw

/-- A drawn tree brought up to date waits for every image of it that is on its way. -/
theorem mem_wanted_iff_of_inFlight {fetchable : String → Bool} (h : loader.Coherent fetchable)
    {tree : RenderTree} (ht : tree.Drawn) {url : String} (hu : url ∈ loader.inFlight.map (·.1)) :
    url ∈ wanted (loader.annotate tree).resources ↔ url ∈ tree.remoteUrls := by
  constructor
  · intro hw
    rw [← remoteUrls_annotate loader]
    exact wanted_subset _ hw
  · intro hm
    obtain ⟨r, hr, hru⟩ := List.mem_filterMap.1 hm
    exact (mem_wanted_iff ht hr hru).2 (h.unknown url hu)

end Loader

namespace Session

variable {fetchable : String → Bool}

/-! ### The generations of the fetches -/

/-- Nothing on its way has a newer generation than what is out. -/
def Current (s : Session) : Prop :=
  ∀ loader, s.loader = some loader → ∀ f ∈ loader.inFlight,
    ∃ p, s.published = some p ∧ f.2 ≤ p.generation

theorem Current.lt_of_accepts {s : Session} (h : Current s) {loader : Loader}
    (hl : s.loader = some loader) {generation : UInt64} (ha : s.accepts generation = true) :
    ∀ f ∈ loader.inFlight, f.2 < generation := by
  intro f hf
  obtain ⟨p, hp, hle⟩ := h loader hl f hf
  rw [accepts, hp] at ha
  exact UInt64.lt_of_le_of_lt hle (of_decide_eq_true ha)

theorem current_start (loader : Loader) (h : loader.inFlight = []) :
    Current (start (some loader)) := by
  intro other hl f hf
  obtain rfl := Option.some.inj hl
  rw [h] at hf
  cases hf

/-- Taking note of an event leaves the generation that is out. -/
theorem applyEvent_published (s : Session) (event : ResourceEvent) {p : Published}
    (h : s.published = some p) :
    ∃ q, (s.applyEvent event).2.published = some q ∧ q.generation = p.generation := by
  unfold applyEvent
  split
  · rename_i loader out _ hout
    obtain rfl := Option.some.inj (h.symm.trans hout)
    dsimp only
    split
    · exact ⟨p, h, rfl⟩
    · exact ⟨_, rfl, rfl⟩
  · exact ⟨p, h, rfl⟩

theorem Loader.finish_inFlight_subset (loader : Loader) (url : String)
    (outcome : Except FetchError (List UInt8)) :
    (loader.finish url outcome).inFlight ⊆ loader.inFlight := by
  unfold Loader.finish
  split
  · rw [Loader.record_inFlight]
    exact fun f hf => (List.mem_filter.1 hf).1
  · exact List.Subset.refl _

/-! ### What a pass leaves on its way -/

/-- Of fetches of older passes, raised where a pass needs them, those of the pass's
generation are those it needs. -/
theorem filter_raiseAll {urls : List String} {generation : UInt64}
    {inFlight : List (String × UInt64)} (hold : ∀ f ∈ inFlight, f.2 < generation) :
    (Loader.raiseAll urls generation inFlight).filter (fun f => decide (generation ≤ f.2)) =
      (inFlight.filter fun f => decide (f.1 ∈ urls)).map fun f => (f.1, generation) := by
  induction inFlight with
  | nil => rfl
  | cons f rest ih =>
    have hlt := hold f List.mem_cons_self
    have hrest := ih fun g hg => hold g (List.mem_cons_of_mem f hg)
    show ((f.1, if f.1 ∈ urls then max f.2 generation else f.2) ::
      Loader.raiseAll urls generation rest).filter (fun f => decide (generation ≤ f.2)) = _
    by_cases hu : f.1 ∈ urls
    · have hmax : max f.2 generation = generation := if_pos (UInt64.le_of_lt hlt)
      simp [hu, hmax, hrest]
    · simp [hu, UInt64.not_le.2 hlt, hrest]

/-- The fetches for what a tree waits for stay where they stand and get its generation;
what is started comes after them, and all others are aborted. -/
theorem fetchFor_inFlight {loader : Loader} (h : loader.Coherent fetchable) (tree : RenderTree)
    {generation : UInt64} (hold : ∀ f ∈ loader.inFlight, f.2 < generation) :
    ∃ started : List String,
      (∀ url ∈ started, url ∈ Loader.wanted (loader.annotate tree).resources ∧
        url ∉ loader.inFlight.map (·.1)) ∧
      (loader.request fetchable (loader.annotate tree) generation).2.inFlight =
        Loader.raiseAll (Loader.wanted (loader.annotate tree).resources) generation
          loader.inFlight ++ started.map (·, generation) ∧
      (fetchFor fetchable (loader.annotate tree) generation loader).inFlight =
        ((loader.inFlight.filter fun f =>
          decide (f.1 ∈ Loader.wanted (loader.annotate tree).resources)).map
            fun f => (f.1, generation)) ++ started.map (·, generation) := by
  have hw : ∀ url ∈ Loader.wanted (loader.annotate tree).resources, fetchable url = true →
      loader.cache.get? url = none := fun _ hu _ => Loader.get?_of_mem_wanted hu
  obtain ⟨started, hs, hasked⟩ := Loader.requestAll_inFlight h generation hw
  refine ⟨started, hs, hasked, ?_⟩
  have hstarted : (started.map (·, generation)).filter (fun f => decide (generation ≤ f.2)) =
      started.map (·, generation) := List.filter_eq_self.2 (by simp)
  show (loader.request fetchable (loader.annotate tree) generation).2.inFlight.filter _ = _
  rw [Loader.request, hasked, List.filter_append, filter_raiseAll hold, hstarted]

theorem current_publish {s : Session} (hc : Coherent fetchable s) (h : Current s)
    (generation : UInt64) (tree : RenderTree) :
    Current (s.publish fetchable generation tree).2 := by
  rcases publish_cases fetchable s generation tree with ⟨_, he⟩ | ⟨ha, hp1, hp, hl⟩
  · rw [he]
    exact h
  · intro loader hloader f hf
    rw [hl] at hloader
    obtain ⟨before, hb, rfl⟩ := Option.map_eq_some_iff.1 hloader
    have hannotated : s.annotated tree = before.annotate tree := by rw [annotated, hb]
    obtain ⟨started, _, _, hafter⟩ :=
      fetchFor_inFlight (hc before hb) tree (h.lt_of_accepts hb ha)
    rw [hannotated, hafter] at hf
    refine ⟨_, hp, ?_⟩
    have hgeneration : f.2 = generation := by
      rcases List.mem_append.1 hf with hf | hf
      · obtain ⟨g, _, rfl⟩ := List.mem_map.1 hf
        rfl
      · obtain ⟨url, _, rfl⟩ := List.mem_map.1 hf
        rfl
    exact hgeneration ▸ UInt64.le_refl _

theorem current_step {s : Session} (hc : Coherent fetchable s) (h : Current s) (x : Step) :
    Current (s.step fetchable x) := by
  cases x with
  | publish generation tree => exact current_publish hc h generation tree
  | finish url outcome =>
    intro loader hl f hf
    obtain ⟨before, hb, rfl⟩ := Option.map_eq_some_iff.1 hl
    exact h before hb f (Loader.finish_inFlight_subset before url outcome hf)
  | applyEvent event =>
    intro loader hl f hf
    rw [step, applyEvent_loader] at hl
    obtain ⟨p, hp, hle⟩ := h loader hl f hf
    obtain ⟨q, hq, hg⟩ := applyEvent_published s event hp
    exact ⟨q, hq, hg ▸ hle⟩

theorem current_run {s : Session} (hc : Coherent fetchable s) (h : Current s) (steps : List Step) :
    Current (run fetchable s steps) := by
  induction steps generalizing s with
  | nil => exact h
  | cons x rest ih => exact ih (coherent_step hc x) (current_step hc h x)

theorem Reached.current {s : Session} (h : Reached fetchable s) : Current s := by
  obtain ⟨capacity, steps, rfl⟩ := h
  exact current_run (coherent_start capacity) (current_start (.empty capacity) rfl) steps

/-! ### Cancellation is exact -/

theorem length_raiseAll (urls : List String) (generation : UInt64)
    (inFlight : List (String × UInt64)) :
    (Loader.raiseAll urls generation inFlight).length = inFlight.length := by
  rw [Loader.raiseAll, List.length_map]

/-- Once a drawn tree is accepted, each fetch on its way is for one of its remote
resources and has its generation. Asking for its images replaces no fetch and aborts
none (`asked`); what is aborted after that is exactly what was on its way before for no
URL of the tree, so that all fetches for URLs of the tree go on in their places. -/
theorem publish_cancels_exactly {s : Session} (hs : Reached fetchable s) {generation : UInt64}
    {tree : RenderTree} (ht : tree.Drawn)
    (ha : (s.publish fetchable generation tree).1 = true) :
    ∃ before asked after, s.loader = some before ∧
      (s.publish fetchable generation tree).2.loader = some after ∧
      (s.publish fetchable generation tree).2.published =
        some ⟨generation, before.annotate tree⟩ ∧
      (before.request fetchable (before.annotate tree) generation).2 = asked ∧
      (asked.cancelStale generation).2 = after ∧
      (∀ f ∈ after.inFlight,
        f.1 ∈ (before.annotate tree).remoteUrls ∧ f.2 = generation) ∧
      (∃ started : List String, (∀ url ∈ started, url ∉ before.inFlight.map (·.1)) ∧
        asked.inFlight = Loader.raiseAll tree.remoteUrls generation before.inFlight ++
          started.map (·, generation) ∧
        after.inFlight = ((before.inFlight.filter fun f => decide (f.1 ∈ tree.remoteUrls)).map
          fun f => (f.1, generation)) ++ started.map (·, generation)) ∧
      (asked.cancelStale generation).1 =
        (before.inFlight.filter fun f => decide (f.1 ∉ tree.remoteUrls)).length := by
  obtain ⟨before, hb⟩ := hs.loader
  obtain ⟨hp, hl⟩ := publish_of_accepted hb ha
  have haccepts : s.accepts generation = true := publish_fst s generation tree ▸ ha
  have hold := hs.current.lt_of_accepts hb haccepts
  have hcoherent := hs.coherent before hb
  obtain ⟨started, hs, hasked, hafter⟩ := fetchFor_inFlight hcoherent tree hold
  -- Of what is on its way, the tree waits for exactly what it has.
  have hwanted : ∀ f ∈ before.inFlight,
      (f.1 ∈ Loader.wanted (before.annotate tree).resources ↔ f.1 ∈ tree.remoteUrls) :=
    fun f hf => Loader.mem_wanted_iff_of_inFlight hcoherent ht (List.mem_map_of_mem hf)
  have hraise : Loader.raiseAll (Loader.wanted (before.annotate tree).resources) generation
      before.inFlight = Loader.raiseAll tree.remoteUrls generation before.inFlight :=
    List.map_congr_left fun f hf => by simp only [hwanted f hf]
  have hkeep : before.inFlight.filter (fun f =>
        decide (f.1 ∈ Loader.wanted (before.annotate tree).resources)) =
      before.inFlight.filter fun f => decide (f.1 ∈ tree.remoteUrls) :=
    List.filter_congr fun f hf => by simp only [hwanted f hf]
  rw [hraise] at hasked
  rw [hkeep] at hafter
  refine ⟨before, _, _, hb, hl, hp, rfl, rfl, fun f hf => ?_,
    ⟨started, fun url hu => (hs url hu).2, hasked, hafter⟩, ?_⟩
  · rw [Loader.remoteUrls_annotate]
    rw [hafter] at hf
    rcases List.mem_append.1 hf with hf | hf
    · obtain ⟨g, hg, rfl⟩ := List.mem_map.1 hf
      exact ⟨of_decide_eq_true (List.mem_filter.1 hg).2, rfl⟩
    · obtain ⟨url, hu, rfl⟩ := List.mem_map.1 hf
      have hin := Loader.wanted_subset _ (hs url hu).1
      rw [← Loader.remoteUrls_annotate before tree]
      exact ⟨hin, rfl⟩
  · have hcount : before.inFlight.length =
        (before.inFlight.filter fun f => decide (f.1 ∈ tree.remoteUrls)).length +
          (before.inFlight.filter fun f => decide (f.1 ∉ tree.remoteUrls)).length := by
      simpa [← List.countP_eq_length_filter] using before.inFlight.length_eq_countP_add_countP
        fun f => decide (f.1 ∈ tree.remoteUrls)
    have hlength := congrArg List.length hasked
    have hlater := congrArg List.length hafter
    rw [List.length_append, length_raiseAll] at hlength
    rw [List.length_append, List.length_map] at hlater
    show (before.request fetchable (before.annotate tree) generation).2.inFlight.length -
      (fetchFor fetchable (before.annotate tree) generation before).inFlight.length = _
    omega

/-- A session whose first pass asked for two images. -/
def twoAsked : Session :=
  run (fun _ => true) (start (some (.empty 1000)))
    [.publish 1 (gallery ["http://h/a.png", "http://h/b.png"])]

/-- The second pass drops one of the two images and has a third: one fetch is aborted, one
goes on, one starts. -/
theorem second_pass_aborts_dropped_image_only :
    Reached (fun _ => true) twoAsked ∧
      (twoAsked.publish (fun _ => true) 2 (gallery ["http://h/b.png", "http://h/c.png"])).1 = true ∧
      ∃ after, (twoAsked.publish (fun _ => true) 2
          (gallery ["http://h/b.png", "http://h/c.png"])).2.loader = some after ∧
        after.inFlight = [("http://h/b.png", 2), ("http://h/c.png", 2)] ∧
        ∃ before asked : Loader, twoAsked.loader = some before ∧
          before.inFlight = [("http://h/a.png", 1), ("http://h/b.png", 1)] ∧
          (asked.cancelStale 2).2 = after ∧ (asked.cancelStale 2).1 = 1 := by
  have hs : Reached (fun _ => true) twoAsked := ⟨_, _, rfl⟩
  have ha : (twoAsked.publish (fun _ => true) 2
      (gallery ["http://h/b.png", "http://h/c.png"])).1 = true := by decide +kernel
  obtain ⟨before, asked, after, hb, hl, _, _, hafter, _, _, hcount⟩ :=
    publish_cancels_exactly hs (gallery_drawn _) ha
  have hbefore : twoAsked.loader.map (·.inFlight) =
      some [("http://h/a.png", 1), ("http://h/b.png", 1)] := by decide +kernel
  have hlater : (twoAsked.publish (fun _ => true) 2
      (gallery ["http://h/b.png", "http://h/c.png"])).2.loader.map (·.inFlight) =
        some [("http://h/b.png", 2), ("http://h/c.png", 2)] := by decide +kernel
  rw [hb] at hbefore
  rw [hl] at hlater
  have hinFlight : before.inFlight = [("http://h/a.png", 1), ("http://h/b.png", 1)] :=
    Option.some.inj hbefore
  refine ⟨hs, ha, after, hl, Option.some.inj hlater, before, asked, hb, hinFlight, hafter, ?_⟩
  rw [hcount, hinFlight]
  decide +kernel

end Session
end Screens
