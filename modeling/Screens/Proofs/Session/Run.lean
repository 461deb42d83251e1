import Screens.Proofs.Render.Shape
import Screens.Proofs.Resources.Loader
import Screens.Session

/-! Runs of a session.

A session goes on by steps: a pass is published, a fetch ends, an event is taken note
of. Each is taken whole, in any order. Every session reached from the start has a
coherent loader (`coherent_run`), and `lookup_fetchFor` says which fetches are on their
way once a pass is accepted: those for the images nothing is known of, and of the others
those of the pass's generation or a newer one. -/
namespace Screens

/-- A tree that some document was drawn to. -/
def RenderTree.Drawn (tree : RenderTree) : Prop := ∃ limit d env, tree = Document.render limit d env

/-! ### What asking means for a drawn tree -/

namespace Evaluate

/-- An evaluated node has no state for its image but that it still has to come. -/
theorem node_resource (limit : Nat) (n : Node) (site : Site) (identity : String) {r : Resource}
    (h : (node limit n site identity).1.face.resource = some r) {url : String}
    (hu : r.remoteUrl? = some url) : r.state = .placeholder := by
  rw [node.eq_def] at h
  split at h
  · cases h
  · split at h
    · cases h
    · dsimp only at h
      split at h <;> try cases h
      · rename_i source _
        cases source with
        | remote => rfl
        | bundled => cases hu
      · split at h <;> cases h

end Evaluate

theorem RenderTree.Drawn.placeholder {tree : RenderTree} (h : tree.Drawn) {r : Resource}
    (hr : r ∈ tree.resources) {url : String} (hu : r.remoteUrl? = some url) :
    r.state = .placeholder := by
  obtain ⟨limit, d, env, rfl⟩ := h
  obtain ⟨f, hf, hfr⟩ := List.mem_filterMap.1 hr
  obtain ⟨m, _, _, _, hfn⟩ :=
    Evaluate.mem_facesOf_children (RenderNode.visibleFacesOf_subset _ hf)
  obtain ⟨k, _, site, identity, rfl⟩ := Evaluate.exists_node_of_mem_faces m _ _ hfn
  exact Evaluate.node_resource limit k site identity hfr hu

namespace Loader

theorem refreshed_remoteUrl? (loader : Loader) (r : Resource) :
    (loader.refreshed r).remoteUrl? = r.remoteUrl? := by
  unfold refreshed
  split <;> rfl

theorem FetchResult.state_ne_placeholder (result : FetchResult) : result.state ≠ .placeholder := by
  cases result <;> simp [FetchResult.state]

/-- A brought-up-to-date image still has to come only if nothing is known of it. -/
theorem refreshed_placeholder {loader : Loader} {r : Resource} {url : String}
    (hu : r.remoteUrl? = some url) :
    (loader.refreshed r).state = .placeholder ↔
      loader.cache.get? url = none ∧ r.state = .placeholder := by
  unfold refreshed
  rw [hu, Option.bind_some]
  cases hk : loader.cache.get? url with
  | none => simp
  | some result => simp [FetchResult.state_ne_placeholder]

/-- What a tree brought up to date waits for is not known. -/
theorem get?_of_mem_wanted {loader : Loader} {tree : RenderTree} {url : String}
    (h : url ∈ wanted (loader.annotate tree).resources) : loader.cache.get? url = none := by
  obtain ⟨r, hr, hw⟩ := List.mem_filterMap.1 h
  obtain ⟨old, _, rfl⟩ := List.mem_map.1 hr
  split at hw
  · rename_i hp
    rw [refreshed_remoteUrl?] at hw
    exact ((refreshed_placeholder hw).1 hp).1
  · cases hw

/-- A drawn tree brought up to date waits for its images that are not known. -/
theorem mem_wanted_iff {loader : Loader} {tree : RenderTree} (ht : tree.Drawn) {r : Resource}
    (hr : r ∈ tree.resources) {url : String} (hu : r.remoteUrl? = some url) :
    url ∈ wanted (loader.annotate tree).resources ↔ loader.cache.get? url = none := by
  refine ⟨get?_of_mem_wanted, fun hk => ?_⟩
  refine List.mem_filterMap.2 ⟨loader.refreshed r, List.mem_map_of_mem hr, ?_⟩
  rw [if_pos ((refreshed_placeholder hu).2 ⟨hk, ht.placeholder hr hu⟩), refreshed_remoteUrl?, hu]

end Loader

namespace Session

variable {fetchable : String → Bool}

/-! ### Steps -/

/-- Something that happens to a session. -/
inductive Step where
  | publish (generation : UInt64) (tree : RenderTree)
  | finish (url : String) (outcome : Except FetchError (List UInt8))
  | applyEvent (event : ResourceEvent)

def step (fetchable : String → Bool) (s : Session) : Step → Session
  | .publish generation tree => (s.publish fetchable generation tree).2
  | .finish url outcome => s.finish url outcome
  | .applyEvent event => (s.applyEvent event).2

def run (fetchable : String → Bool) (s : Session) : List Step → Session
  | [] => s
  | x :: rest => run fetchable (s.step fetchable x) rest

/-- The sessions that only such trees are fed to. -/
inductive FedWith (fetchable : String → Bool) (fits : RenderTree → Prop) : Session → Prop where
  | start (loader : Option Loader) : FedWith fetchable fits (start loader)
  | begin {s : Session} : FedWith fetchable fits s → FedWith fetchable fits s.begin.2
  | publish {s : Session} (generation : UInt64) {tree : RenderTree} :
      FedWith fetchable fits s → fits tree →
        FedWith fetchable fits (s.publish fetchable generation tree).2
  | applyEvent {s : Session} (event : ResourceEvent) :
      FedWith fetchable fits s → FedWith fetchable fits (s.applyEvent event).2
  /-- Fetches end, results are dropped, others ask for theirs: anything becomes of the loader. -/
  | loader {s : Session} (change : Loader → Loader) :
      FedWith fetchable fits s → FedWith fetchable fits { s with loader := s.loader.map change }

/-- Only such a tree is published by the step. -/
def Step.Feeds (fits : RenderTree → Prop) : Step → Prop
  | .publish _ tree => fits tree
  | .finish .. | .applyEvent _ => True

theorem FedWith.finish {fits : RenderTree → Prop} {s : Session} (h : FedWith fetchable fits s)
    (url : String) (outcome : Except FetchError (List UInt8)) :
    FedWith fetchable fits (s.finish url outcome) := .loader (·.finish url outcome) h

theorem FedWith.run {fits : RenderTree → Prop} {s : Session} (h : FedWith fetchable fits s)
    {steps : List Step} (hsteps : ∀ x ∈ steps, x.Feeds fits) :
    FedWith fetchable fits (run fetchable s steps) := by
  induction steps generalizing s with
  | nil => exact h
  | cons x rest ih =>
    obtain ⟨hx, hrest⟩ := List.forall_mem_cons.1 hsteps
    refine ih ?_ hrest
    cases x with
    | publish generation tree => exact .publish generation h hx
    | finish url outcome => exact h.finish url outcome
    | applyEvent event => exact .applyEvent event h

/-- What a pass does: it is refused and changes nothing, or it is out and its images are
asked for. -/
theorem publish_cases (fetchable : String → Bool) (s : Session) (generation : UInt64)
    (tree : RenderTree) :
    (s.accepts generation = false ∧ s.publish fetchable generation tree = (false, s)) ∨
    (s.accepts generation = true ∧ (s.publish fetchable generation tree).1 = true ∧
      (s.publish fetchable generation tree).2.published = some ⟨generation, s.annotated tree⟩ ∧
      (s.publish fetchable generation tree).2.loader =
        s.loader.map (fetchFor fetchable (s.annotated tree) generation)) := by
  unfold publish
  cases h : s.accepts generation with
  | false => exact .inl ⟨rfl, rfl⟩
  | true => exact .inr ⟨rfl, rfl, rfl, rfl⟩

/-- A pass is accepted if what is out is older. -/
theorem publish_fst (s : Session) (generation : UInt64) (tree : RenderTree) :
    (s.publish fetchable generation tree).1 = s.accepts generation := by
  rcases publish_cases fetchable s generation tree with ⟨ha, he⟩ | ⟨ha, he, _⟩
  · rw [he, ha]
  · rw [he, ha]

theorem applyEvent_loader (s : Session) (event : ResourceEvent) :
    (s.applyEvent event).2.loader = s.loader := by
  unfold applyEvent
  split
  · dsimp only
    split <;> rfl
  · rfl

/-! ### What every session keeps -/

/-- The loader, if there is one, is coherent. -/
def Coherent (fetchable : String → Bool) (s : Session) : Prop :=
  ∀ loader, s.loader = some loader → loader.Coherent fetchable

theorem coherent_start (capacity : Nat) :
    Coherent fetchable (start (some (.empty capacity))) := by
  intro loader h
  cases h
  exact Loader.coherent_empty capacity

theorem coherent_fetchFor {loader : Loader} (h : loader.Coherent fetchable) (tree : RenderTree)
    (generation : UInt64) :
    (fetchFor fetchable (loader.annotate tree) generation loader).Coherent fetchable :=
  Loader.coherent_cancelStale
    (Loader.coherent_requestAll h fun _ hu _ => Loader.get?_of_mem_wanted hu)

theorem coherent_publish {s : Session} (h : Coherent fetchable s) (generation : UInt64)
    (tree : RenderTree) : Coherent fetchable (s.publish fetchable generation tree).2 := by
  intro loader hl
  rcases publish_cases fetchable s generation tree with ⟨_, he⟩ | ⟨_, _, _, he⟩
  · rw [he] at hl
    exact h loader hl
  · rw [he] at hl
    obtain ⟨before, hb, rfl⟩ := Option.map_eq_some_iff.1 hl
    have ha : s.annotated tree = before.annotate tree := by rw [annotated, hb]
    rw [ha]
    exact coherent_fetchFor (h before hb) tree generation

theorem coherent_step {s : Session} (h : Coherent fetchable s) (x : Step) :
    Coherent fetchable (s.step fetchable x) := by
  cases x with
  | publish generation tree => exact coherent_publish h generation tree
  | finish url outcome =>
    intro loader hl
    obtain ⟨before, hb, rfl⟩ := Option.map_eq_some_iff.1 hl
    exact Loader.coherent_finish (h before hb) url outcome
  | applyEvent event =>
    intro loader hl
    exact h loader ((applyEvent_loader s event) ▸ hl)

theorem coherent_run {s : Session} (h : Coherent fetchable s) (steps : List Step) :
    Coherent fetchable (run fetchable s steps) := by
  induction steps generalizing s with
  | nil => exact h
  | cons x rest ih => exact ih (coherent_step h x)

/-- No step takes a loader away. -/
theorem loader_step {s : Session} (h : s.loader.isSome = true) (x : Step) :
    (s.step fetchable x).loader.isSome = true := by
  cases x with
  | publish generation tree =>
    rcases publish_cases fetchable s generation tree with ⟨_, he⟩ | ⟨_, _, _, he⟩
    · rw [step, he]
      exact h
    · rw [step, he, Option.isSome_map]
      exact h
  | finish url outcome => rw [step, finish, Option.isSome_map]; exact h
  | applyEvent event => rw [step, applyEvent_loader]; exact h

theorem loader_run {s : Session} (h : s.loader.isSome = true) (steps : List Step) :
    (run fetchable s steps).loader.isSome = true := by
  induction steps generalizing s with
  | nil => exact h
  | cons x rest ih => exact ih (loader_step h x)

/-- A session with a loader of some capacity, after any steps. -/
def Reached (fetchable : String → Bool) (s : Session) : Prop :=
  ∃ capacity steps, s = run fetchable (start (some (.empty capacity))) steps

theorem Reached.coherent {s : Session} (h : Reached fetchable s) : Coherent fetchable s := by
  obtain ⟨capacity, steps, rfl⟩ := h
  exact coherent_run (coherent_start capacity) steps

theorem Reached.loader {s : Session} (h : Reached fetchable s) : ∃ loader, s.loader = some loader := by
  obtain ⟨capacity, steps, rfl⟩ := h
  exact Option.isSome_iff_exists.1 (loader_run rfl steps)

/-! ### What is on its way once a pass is accepted -/

theorem lookup_fetchFor {loader : Loader} (h : loader.Coherent fetchable) (tree : RenderTree)
    (generation : UInt64) (url : String) :
    (fetchFor fetchable (loader.annotate tree) generation loader).inFlight.lookup url =
      if url ∈ Loader.wanted (loader.annotate tree).resources ∧ fetchable url = true then
        some (Loader.raised generation (loader.inFlight.lookup url))
      else (loader.inFlight.lookup url).filter (generation ≤ ·) := by
  have hw : ∀ u ∈ Loader.wanted (loader.annotate tree).resources, fetchable u = true →
      loader.cache.get? u = none := fun _ hu _ => Loader.get?_of_mem_wanted hu
  have hasked : ((loader.request fetchable (loader.annotate tree) generation).2).Coherent fetchable :=
    Loader.coherent_requestAll h hw
  show (List.filter _ _).lookup url = _
  rw [Lookup.lookup_filter _ hasked.distinct, Loader.request, Loader.lookup_requestAll h hw]
  split
  · simp [Loader.le_raised]
  · rfl

/-- An accepted pass is out, brought up to date, and its images are asked for. -/
theorem publish_of_accepted {s : Session} {before : Loader} (hb : s.loader = some before)
    {generation : UInt64} {tree : RenderTree}
    (ha : (s.publish fetchable generation tree).1 = true) :
    (s.publish fetchable generation tree).2.published = some ⟨generation, before.annotate tree⟩ ∧
      (s.publish fetchable generation tree).2.loader =
        some (fetchFor fetchable (before.annotate tree) generation before) := by
  have hannotated : s.annotated tree = before.annotate tree := by rw [annotated, hb]
  rcases publish_cases fetchable s generation tree with ⟨_, he⟩ | ⟨_, _, hp, hl⟩
  · rw [he] at ha
    cases ha
  · rw [hp, hl, hb, hannotated]
    exact ⟨rfl, rfl⟩

/-- After a drawn tree is accepted, an image of it that can be fetched is on its way
exactly if nothing was known of it before. -/
theorem isSome_lookup_fetchFor {loader : Loader} (h : loader.Coherent fetchable) {tree : RenderTree}
    (ht : tree.Drawn) (generation : UInt64) {r : Resource} (hr : r ∈ tree.resources) {url : String}
    (hu : r.remoteUrl? = some url) (hf : fetchable url = true) :
    ((fetchFor fetchable (loader.annotate tree) generation loader).inFlight.lookup url).isSome =
      true ↔ loader.cache.get? url = none := by
  have hw : url ∈ Loader.wanted (loader.annotate tree).resources ↔ loader.cache.get? url = none :=
    Loader.mem_wanted_iff ht hr hu
  rw [lookup_fetchFor h]
  cases hk : loader.cache.get? url with
  | none => simp [hw, hk, hf]
  | some result =>
    have hnone := Lookup.eq_none_iff_not_mem.2 (h.not_mem_of_known hk)
    simp [hw, hk, hnone]

/-! ### Galleries -/

/-- A screen of images without ids, drawn. -/
def gallery (urls : List String) : RenderTree :=
  (Document.ofComponents "gallery" ""
    (urls.map fun url => .image ⟨none, none, none, []⟩ (.remote url))).render standardDepth .empty

theorem gallery_drawn (urls : List String) : (gallery urls).Drawn := ⟨_, _, _, rfl⟩

end Session
end Screens
