import Screens.Proofs.Render.Outline
import Screens.Proofs.Session.Run

/-! The newest pass is out, in whatever order passes end.

Of the passes submitted to a session one wins: the first of those with the greatest
generation (`Wins`). After any steps the winner is out, up to what has become known of
its images since (`shown_run`). Which pass wins depends on the order of the submissions
only if two have one generation, so passes of distinct generations may end in any order. -/
namespace Screens.Session

variable {fetchable : String → Bool}

/-- What is out, up to the states of its remote resources. -/
def shown (s : Session) : Option (UInt64 × RenderTree) :=
  s.published.map fun p => (p.generation, p.tree.outline)

/-- The pass that a step submits. -/
def Step.submitted? : Step → Option (UInt64 × RenderTree)
  | .publish generation tree => some (generation, tree)
  | .finish .. | .applyEvent _ => none

/-- The passes that steps submit, whether they are accepted or not. -/
def submitted (steps : List Step) : List (UInt64 × RenderTree) :=
  steps.filterMap Step.submitted?

theorem submitted_append (steps more : List Step) :
    submitted (steps ++ more) = submitted steps ++ submitted more :=
  List.filterMap_append

theorem run_append (s : Session) (steps more : List Step) :
    run fetchable s (steps ++ more) = run fetchable (run fetchable s steps) more := by
  induction steps generalizing s with
  | nil => rfl
  | cons x rest ih => exact ih (s.step fetchable x)

/-! ### What a step does to what is out -/

theorem accepts_eq (s : Session) (generation : UInt64) :
    s.accepts generation = s.shown.all fun out => decide (out.1 < generation) := by
  unfold accepts shown
  cases s.published <;> rfl

theorem outline_annotated (s : Session) (tree : RenderTree) :
    (s.annotated tree).outline = tree.outline := by
  unfold annotated
  cases s.loader with
  | none => rfl
  | some loader => exact loader.outline_annotate tree

theorem shown_publish (s : Session) (generation : UInt64) (tree : RenderTree) :
    (s.publish fetchable generation tree).2.shown =
      if s.accepts generation = true then some (generation, tree.outline) else s.shown := by
  rcases publish_cases fetchable s generation tree with ⟨ha, he⟩ | ⟨ha, _, hp, _⟩
  · rw [he, ha]
    rfl
  · rw [shown, hp, if_pos ha, Option.map_some, outline_annotated]

/-- Taking note of an event changes the states of resources at most. -/
theorem shown_applyEvent (s : Session) (event : ResourceEvent) :
    (s.applyEvent event).2.shown = s.shown := by
  unfold applyEvent
  split
  · rename_i loader p _ hp
    dsimp only
    split
    · rfl
    · simp only [shown, hp, Option.map_some, Loader.outline_annotate]
  · rfl

/-! ### The pass that wins -/

/-- Among the passes that the steps submit, none before this one has its generation or a
newer one, and none after it a newer one. -/
def Wins (generation : UInt64) (tree : RenderTree) (steps : List Step) : Prop :=
  ∃ before after, steps = before ++ .publish generation tree :: after ∧
    (∀ pass ∈ submitted before, pass.1 < generation) ∧
    (∀ pass ∈ submitted after, pass.1 ≤ generation)

theorem Wins.mem {generation : UInt64} {tree : RenderTree} {steps : List Step}
    (h : Wins generation tree steps) : (generation, tree) ∈ submitted steps := by
  obtain ⟨before, after, rfl, _, _⟩ := h
  exact List.mem_filterMap.2
    ⟨.publish generation tree, List.mem_append_right _ List.mem_cons_self, rfl⟩

theorem Wins.le {generation : UInt64} {tree : RenderTree} {steps : List Step}
    (h : Wins generation tree steps) : ∀ pass ∈ submitted steps, pass.1 ≤ generation := by
  obtain ⟨before, after, rfl, hbefore, hafter⟩ := h
  intro pass hpass
  rw [submitted_append, List.mem_append] at hpass
  rcases hpass with hpass | hpass
  · exact UInt64.le_of_lt (hbefore pass hpass)
  · rcases List.mem_cons.1 hpass with rfl | hpass
    · exact UInt64.le_refl _
    · exact hafter pass hpass

/-- A step that submits nothing newer leaves the winner. -/
theorem Wins.snoc {generation : UInt64} {tree : RenderTree} {steps : List Step}
    (h : Wins generation tree steps) {x : Step}
    (hx : ∀ pass, x.submitted? = some pass → pass.1 ≤ generation) :
    Wins generation tree (steps ++ [x]) := by
  obtain ⟨before, after, rfl, hbefore, hafter⟩ := h
  refine ⟨before, after ++ [x], by simp, hbefore, fun pass hpass => ?_⟩
  rw [submitted_append, List.mem_append] at hpass
  rcases hpass with hpass | hpass
  · exact hafter pass hpass
  · obtain ⟨y, hy, he⟩ := List.mem_filterMap.1 hpass
    rw [List.mem_singleton.1 hy] at he
    exact hx pass he

/-- A pass newer than all before it is the winner. -/
theorem wins_of_newest {generation : UInt64} {steps : List Step}
    (h : ∀ pass ∈ submitted steps, pass.1 < generation) (tree : RenderTree) :
    Wins generation tree (steps ++ [.publish generation tree]) :=
  ⟨steps, [], rfl, h, by simp [submitted]⟩

/-- What is out comes from the winner of the steps; nothing is out if none was submitted. -/
def Out (steps : List Step) : Option (UInt64 × RenderTree) → Prop
  | none => submitted steps = []
  | some out => ∃ tree, Wins out.1 tree steps ∧ out.2 = tree.outline

/-- A pass is accepted exactly if it is newer than all submitted before. -/
theorem accepts_iff_of_out {s : Session} {steps : List Step} (h : Out steps s.shown)
    (generation : UInt64) :
    s.accepts generation = true ↔ ∀ pass ∈ submitted steps, pass.1 < generation := by
  rw [accepts_eq]
  cases ho : s.shown with
  | none =>
    rw [ho] at h
    have hnone : submitted steps = [] := h
    simp [hnone]
  | some out =>
    rw [ho] at h
    obtain ⟨tree, hw, _⟩ := h
    rw [Option.all_some, decide_eq_true_iff]
    exact ⟨fun hlt pass hpass => UInt64.lt_of_le_of_lt (hw.le pass hpass) hlt,
      fun hall => hall (out.1, tree) hw.mem⟩

theorem out_step (fetchable : String → Bool) {s : Session} {steps : List Step}
    (h : Out steps s.shown) (x : Step) :
    Out (steps ++ [x]) (s.step fetchable x).shown := by
  -- A step without a pass leaves both the winner and what is out.
  have hidle (hx : x.submitted? = none) : Out (steps ++ [x]) s.shown := by
    cases ho : s.shown with
    | none =>
      rw [ho] at h
      have hnone : submitted steps = [] := h
      show submitted (steps ++ [x]) = []
      rw [submitted_append, hnone]
      simp [submitted, hx]
    | some out =>
      rw [ho] at h
      obtain ⟨tree, hw, he⟩ := h
      exact ⟨tree, hw.snoc (by simp [hx]), he⟩
  cases x with
  | finish url outcome => exact hidle rfl
  | applyEvent event =>
    rw [step, shown_applyEvent]
    exact hidle rfl
  | publish generation tree =>
    rw [step, shown_publish]
    split
    · rename_i ha
      exact ⟨tree, wins_of_newest ((accepts_iff_of_out h generation).1 ha) tree, rfl⟩
    · rename_i ha
      -- Something at least as new is out, for nothing out refuses no pass.
      cases ho : s.shown with
      | none => simp [accepts_eq, ho] at ha
      | some out =>
        rw [accepts_eq, ho, Option.all_some, decide_eq_true_iff] at ha
        rw [ho] at h
        obtain ⟨first, hw, he⟩ := h
        refine ⟨first, hw.snoc fun pass hpass => ?_, he⟩
        cases hpass
        exact UInt64.not_lt.1 ha

theorem out_run (fetchable : String → Bool) {s : Session} {steps : List Step}
    (h : Out steps s.shown) (more : List Step) :
    Out (steps ++ more) (run fetchable s more).shown := by
  induction more generalizing s steps with
  | nil => rwa [List.append_nil]
  | cons x rest ih =>
    have hrest := ih (out_step fetchable h x)
    rwa [List.append_assoc] at hrest

theorem shown_run (fetchable : String → Bool) (loader : Option Loader) (steps : List Step) :
    Out steps (run fetchable (start loader) steps).shown := by
  have hstart : Out [] (start loader).shown := rfl
  exact out_run fetchable hstart steps

/-- The winner of distinct generations does not depend on the order of the passes. -/
theorem Wins.eq_of_perm {g k : UInt64} {t u : RenderTree} {steps others : List Step}
    (ht : Wins g t steps) (hu : Wins k u others) (hperm : (submitted steps).Perm (submitted others))
    (hd : ((submitted steps).map (·.1)).Nodup) : g = k ∧ t = u := by
  have hmem : (k, u) ∈ submitted steps := hperm.mem_iff.2 hu.mem
  have hgk : g = k :=
    UInt64.le_antisymm (hu.le _ (hperm.mem_iff.1 ht.mem)) (ht.le _ hmem)
  subst hgk
  have hfound := Lookup.lookup_of_mem hd ht.mem
  rw [Lookup.lookup_of_mem hd hmem] at hfound
  exact ⟨rfl, (Option.some.inj hfound).symm⟩

theorem out_eq_of_perm {a b : Option (UInt64 × RenderTree)} {steps others : List Step}
    (ha : Out steps a) (hb : Out others b) (hperm : (submitted steps).Perm (submitted others))
    (hd : ((submitted steps).map (·.1)).Nodup) : a = b := by
  cases a with
  | none =>
    have hnone : submitted steps = [] := ha
    cases b with
    | none => rfl
    | some out =>
      obtain ⟨_, hw, _⟩ := hb
      exact absurd hnone (List.ne_nil_of_mem (hperm.mem_iff.2 hw.mem))
  | some first =>
    obtain ⟨t, ht, hfirst⟩ := ha
    cases b with
    | none =>
      have hnone : submitted others = [] := hb
      exact absurd hnone (List.ne_nil_of_mem (hperm.mem_iff.1 ht.mem))
    | some out =>
      obtain ⟨u, hu, hout⟩ := hb
      obtain ⟨hg, htree⟩ := ht.eq_of_perm hu hperm hd
      exact congrArg some (Prod.ext hg (by rw [hfirst, hout, htree]))

/-! ### Last writer wins -/

theorem exists_published_of_submitted (fetchable : String → Bool) (loader : Option Loader)
    {steps : List Step} (h : submitted steps ≠ []) :
    ∃ p, (run fetchable (start loader) steps).published = some p := by
  have hout := shown_run fetchable loader steps
  cases hp : (run fetchable (start loader) steps).published with
  | none =>
    rw [shown, hp] at hout
    exact absurd hout h
  | some p => exact ⟨p, rfl⟩

theorem wins_of_published {loader : Option Loader} {steps : List Step} {p : Published}
    (h : (run fetchable (start loader) steps).published = some p) :
    ∃ tree, Wins p.generation tree steps ∧ p.tree.outline = tree.outline := by
  have hout := shown_run fetchable loader steps
  rw [shown, h] at hout
  exact hout

/-- A pass is accepted exactly if it is newer than every pass submitted before it, and
else changes nothing. The generation that is out never decreases. What is out is, up to
the states of its remote resources, what the accepted pass of the greatest generation
submitted; so passes of distinct generations can be submitted in any order, with any
fetches and events between them and with any loader, and the same is out in the end. -/
theorem last_writer_wins (fetchable : String → Bool) (loader : Option Loader) (steps : List Step) :
    let s := run fetchable (start loader) steps
    (∀ generation tree, (s.publish fetchable generation tree).1 = true ↔
      ∀ pass ∈ submitted steps, pass.1 < generation) ∧
    (∀ generation tree, (s.publish fetchable generation tree).1 = false →
      (s.publish fetchable generation tree).2 = s) ∧
    (∀ p, s.published = some p → ∀ more, ∃ q,
      (run fetchable s more).published = some q ∧ p.generation ≤ q.generation) ∧
    (s.published = none ↔ submitted steps = []) ∧
    (∀ p, s.published = some p → ∃ before tree after,
      steps = before ++ .publish p.generation tree :: after ∧
      ((run fetchable (start loader) before).publish fetchable p.generation tree).1 = true ∧
      (∀ pass ∈ submitted steps, pass.1 ≤ p.generation) ∧ p.tree.outline = tree.outline) ∧
    (∀ other others, (submitted steps).Perm (submitted others) →
      ((submitted steps).map (·.1)).Nodup →
        (run fetchable (start other) others).shown = s.shown) := by
  have haccepts (steps : List Step) (generation : UInt64) (tree : RenderTree) :
      ((run fetchable (start loader) steps).publish fetchable generation tree).1 = true ↔
        ∀ pass ∈ submitted steps, pass.1 < generation := by
    rw [publish_fst]
    exact accepts_iff_of_out (shown_run fetchable loader steps) generation
  refine ⟨haccepts steps, fun generation tree hr => ?rejected, fun p hp more => ?grows, ?nothing,
    fun p hp => ?winner, fun other others hperm hd => Eq.symm ?orders⟩
  case rejected =>
    rcases publish_cases fetchable (run fetchable (start loader) steps) generation tree with
      ⟨_, he⟩ | ⟨_, ha, _⟩
    · rw [he]
    · rw [ha] at hr
      cases hr
  case grows =>
    obtain ⟨tree, hw, _⟩ := wins_of_published hp
    have hmem : (p.generation, tree) ∈ submitted (steps ++ more) := by
      rw [submitted_append]
      exact List.mem_append_left _ hw.mem
    obtain ⟨q, hq⟩ := exists_published_of_submitted fetchable loader (List.ne_nil_of_mem hmem)
    obtain ⟨_, hlast, _⟩ := wins_of_published hq
    rw [run_append] at hq
    exact ⟨q, hq, hlast.le _ hmem⟩
  case nothing =>
    refine ⟨fun hnone => ?_, fun hnone => ?_⟩
    · have hout := shown_run fetchable loader steps
      rw [shown, hnone] at hout
      exact hout
    · cases hp : (run fetchable (start loader) steps).published with
      | none => rfl
      | some p =>
        obtain ⟨_, hw, _⟩ := wins_of_published hp
        exact absurd hnone (List.ne_nil_of_mem hw.mem)
  case winner =>
    obtain ⟨tree, hw, he⟩ := wins_of_published hp
    have hle := hw.le
    obtain ⟨before, after, hsteps, hbefore, _⟩ := hw
    exact ⟨before, tree, after, hsteps, (haccepts before p.generation tree).2 hbefore, hle, he⟩
  case orders =>
    exact out_eq_of_perm (shown_run fetchable loader steps) (shown_run fetchable other others)
      hperm hd

/-- The newer of two passes ends first, and its image comes before the older one ends. -/
def overtaking : List Step :=
  [.publish 2 (gallery ["http://h/b.png"]), .finish "http://h/b.png" (.ok [1, 2, 3]),
    .publish 1 (gallery ["http://h/a.png"]), .applyEvent (.loaded "http://h/b.png" 2)]

/-- Both passes in order, and no images fetched. -/
def inOrder : List Step :=
  [.publish 1 (gallery ["http://h/a.png"]), .publish 2 (gallery ["http://h/b.png"])]

theorem overtaking_ends_as_in_order :
    (run (fun _ => true) (start none) inOrder).shown =
        (run (fun _ => true) (start (some (.empty 1000))) overtaking).shown ∧
      (run (fun _ => true) (start none) inOrder).published ≠
        (run (fun _ => true) (start (some (.empty 1000))) overtaking).published := by
  obtain ⟨_, _, _, _, _, horder⟩ :=
    last_writer_wins (fun _ => true) (some (.empty 1000)) overtaking
  exact ⟨horder none inOrder (List.Perm.swap _ _ _) (by decide +kernel), by decide +kernel⟩

end Screens.Session
