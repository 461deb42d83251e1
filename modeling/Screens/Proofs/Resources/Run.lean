import Screens.Proofs.Resources.Loader

/-! Runs of a loader.

A loader goes on by steps: a pass asks for what its tree waits for, a fetch ends, a pass
aborts what only older ones want. Every loader reached is `Tidy`: no URL is on its way twice,
all on its way can be fetched, and nothing in the cache would do for the pass that a fetch
is for (`tidy_run`). By that last part a pass for which the cache does have something is older
than the fetch, so nothing is lost by passing the fetch over: whoever asks, it carries the
newest generation that did (`lookup_requestAll_of_some`). -/
namespace Screens

/-- The result of a fetch that was for passes up to a generation. -/
def FetchResult.of (outcome : Except FetchError (List UInt8)) (generation : UInt64) : FetchResult :=
  match outcome with
  | .ok content => .loaded content
  | .error e => .failed e.message generation

def ResourceEvent.of (url : String) (generation : UInt64)
    (outcome : Except FetchError (List UInt8)) : ResourceEvent :=
  match outcome with
  | .ok _ => .loaded url generation
  | .error e => .failed url generation e.message

theorem FetchResult.settles_mono {result : FetchResult} {g h : UInt64} (hle : g ≤ h)
    (hs : result.settles h = true) : result.settles g = true := by
  cases result with
  | loaded => rfl
  | failed _ upTo => exact decide_eq_true (UInt64.le_trans hle (of_decide_eq_true hs))

namespace Loader

variable {fetchable : String → Bool} {loader : Loader} {generation : UInt64}

theorem record_eq (loader : Loader) (url : String) (generation : UInt64)
    (outcome : Except FetchError (List UInt8)) :
    loader.record url generation outcome = { loader with
      cache := loader.cache.insert url (.of outcome generation)
      events := loader.events ++ [.of url generation outcome] } := by
  cases outcome <;> rfl

theorem Settled.mono {url : String} {g h : UInt64} (hle : g ≤ h) (hs : loader.Settled url h) :
    loader.Settled url g := by
  obtain ⟨result, hk, hs⟩ := hs
  exact ⟨result, hk, FetchResult.settles_mono hle hs⟩

/-! ### What every loader keeps -/

structure Tidy (fetchable : String → Bool) (loader : Loader) : Prop where
  distinct : (loader.inFlight.map (·.1)).Nodup
  fetchable : ∀ url ∈ loader.inFlight.map (·.1), fetchable url = true
  /-- The pass a fetch is for has no result that would do. -/
  due : ∀ url g, loader.inFlight.lookup url = some g → ¬ loader.Settled url g
  kept : loader.cache.Kept

theorem tidy_empty (capacity : Nat) : Tidy fetchable (.empty capacity) :=
  ⟨List.nodup_nil, by simp [empty], by simp [empty], ResultCache.kept_empty capacity⟩

theorem tidy_record (h : Tidy fetchable loader) {url : String}
    (hu : url ∉ loader.inFlight.map (·.1)) (outcome : Except FetchError (List UInt8)) :
    Tidy fetchable (loader.record url generation outcome) := by
  rw [record_eq]
  refine ⟨h.distinct, h.fetchable, fun other g hg hs => ?_, ResultCache.kept_insert h.kept _ _⟩
  have hne : other ≠ url := by
    rintro rfl
    exact hu (Lookup.mem_keys_of_lookup hg)
  obtain ⟨result, hk, hs⟩ := hs
  exact h.due other g hg ⟨result, ResultCache.get?_of_insert h.kept hne hk, hs⟩

/-- Leaving fetches out keeps a loader tidy. -/
theorem tidy_filter (h : Tidy fetchable loader) (keep : String × UInt64 → Bool) :
    Tidy fetchable { loader with inFlight := loader.inFlight.filter keep } := by
  have hsub : ((loader.inFlight.filter keep).map (·.1)).Sublist (loader.inFlight.map (·.1)) :=
    List.filter_sublist.map _
  refine ⟨hsub.nodup h.distinct, fun url hu => h.fetchable url (hsub.subset hu),
    fun url g hg => h.due url g (Lookup.lookup_of_lookup_filter h.distinct hg), h.kept⟩

theorem tidy_raise (h : Tidy fetchable loader) {url : String}
    (hu : ¬ loader.Settled url generation) :
    Tidy fetchable { loader with inFlight := raise url generation loader.inFlight } := by
  refine ⟨?_, ?_, fun other g hg => ?_, h.kept⟩
  · rw [raise_keys]
    exact h.distinct
  · rw [raise_keys]
    exact h.fetchable
  · dsimp only at hg
    rw [lookup_raise, Option.map_eq_some_iff] at hg
    obtain ⟨before, hb, rfl⟩ := hg
    split
    · rename_i ho
      subst ho
      show ¬ loader.Settled other (if before ≤ generation then generation else before)
      split
      · exact hu
      · exact h.due other before hb
    · exact h.due other before hb

theorem tidy_start (h : Tidy fetchable loader) {url : String}
    (hu : ¬ loader.Settled url generation) (hn : url ∉ loader.inFlight.map (·.1))
    (hf : fetchable url = true) :
    Tidy fetchable { loader with inFlight := loader.inFlight ++ [(url, generation)] } := by
  refine ⟨nodup_started h.distinct hn, forall_started h.fetchable hf, fun other g hg => ?_, h.kept⟩
  rcases List.mem_append.1 (Lookup.mem_of_lookup hg) with hold | hnew
  · exact h.due other g (Lookup.lookup_of_mem h.distinct hold)
  · cases List.mem_singleton.1 hnew
    exact hu

theorem tidy_requestOne (h : Tidy fetchable loader) (generation : UInt64) (url : String) :
    Tidy fetchable (loader.requestOne fetchable generation url).2 := by
  rcases requestOne_cases fetchable generation loader url with
    ⟨_, he⟩ | ⟨hs, _, he⟩ | ⟨_, hn, _, he⟩ | ⟨hs, hn, hf, he⟩ <;> rw [he]
  · exact h
  · exact tidy_raise h hs
  · dsimp only
    exact tidy_record h hn _
  · exact tidy_start h hs hn hf

theorem tidy_requestAll (h : Tidy fetchable loader) (generation : UInt64) (urls : List String) :
    Tidy fetchable (requestAll fetchable generation urls loader).2 := by
  induction urls generalizing loader with
  | nil => exact h
  | cons url rest ih => exact ih (tidy_requestOne h generation url)

theorem tidy_finish (h : Tidy fetchable loader) (url : String)
    (outcome : Except FetchError (List UInt8)) : Tidy fetchable (loader.finish url outcome) := by
  unfold finish
  split
  · refine tidy_record (tidy_filter h _) (fun hm => ?_) outcome
    obtain ⟨f, hf, rfl⟩ := List.mem_map.1 hm
    simpa using (List.mem_filter.1 hf).2
  · exact h

theorem tidy_cancelStale (h : Tidy fetchable loader) (generation : UInt64) :
    Tidy fetchable (loader.cancelStale generation).2 := tidy_filter h _

/-! ### What asking does to the fetches -/

theorem requestOne_count (fetchable : String → Bool) (loader : Loader) (generation : UInt64)
    (url : String) : (loader.requestOne fetchable generation url).2.inFlight.length =
      loader.inFlight.length + (loader.requestOne fetchable generation url).1.toNat := by
  rcases requestOne_cases fetchable generation loader url with
    ⟨_, he⟩ | ⟨_, _, he⟩ | ⟨_, _, _, he⟩ | ⟨_, _, _, he⟩ <;> rw [he]
  · rfl
  · simp [raise]
  · rw [record_inFlight]
    rfl
  · simp

/-- The count a pass tells is that of the fetches that came on their way. -/
theorem requestAll_count (fetchable : String → Bool) (loader : Loader) (generation : UInt64)
    (urls : List String) : (requestAll fetchable generation urls loader).2.inFlight.length =
      loader.inFlight.length + (requestAll fetchable generation urls loader).1 := by
  induction urls generalizing loader with
  | nil => rfl
  | cons url rest ih =>
    have hfirst := requestOne_count fetchable loader generation url
    have hrest := ih (loader.requestOne fetchable generation url).2
    rw [hfirst] at hrest
    exact hrest.trans (Nat.add_assoc _ _ _)

/-- What is on its way stays so, for the pass too if it asked for it. -/
theorem lookup_requestOne_of_some (h : Tidy fetchable loader) {url other : String} {tag : UInt64}
    (ht : loader.inFlight.lookup other = some tag) :
    (loader.requestOne fetchable generation url).2.inFlight.lookup other =
      some (if other = url then max tag generation else tag) := by
  have hnot (hn : url ∉ loader.inFlight.map (·.1)) : other ≠ url := by
    rintro rfl
    exact hn (Lookup.mem_keys_of_lookup ht)
  rcases requestOne_cases fetchable generation loader url with
    ⟨hs, he⟩ | ⟨_, _, he⟩ | ⟨_, hn, _, he⟩ | ⟨_, hn, _, he⟩ <;> rw [he]
  · rw [ht]
    split
    · rename_i ho
      subst ho
      -- The fetch is for a newer pass than the failure that will do for this one.
      have hlt : ¬ tag ≤ generation := fun hle => h.due other tag ht (hs.mono hle)
      exact congrArg some (if_neg hlt).symm
    · rfl
  · dsimp only
    rw [lookup_raise, ht]
    rfl
  · rw [record_inFlight, ht, if_neg (hnot hn)]
  · dsimp only
    rw [List.lookup_append, ht, if_neg (hnot hn)]
    rfl

/-- What was not on its way is so only if it was asked for, and then for the pass. -/
theorem lookup_requestOne_of_none {url other : String} {tag : UInt64}
    (hn : loader.inFlight.lookup other = none)
    (ht : (loader.requestOne fetchable generation url).2.inFlight.lookup other = some tag) :
    other = url ∧ tag = generation := by
  rcases requestOne_cases fetchable generation loader url with
    ⟨_, he⟩ | ⟨_, _, he⟩ | ⟨_, _, _, he⟩ | ⟨_, _, _, he⟩ <;> rw [he] at ht
  · rw [hn] at ht
    cases ht
  · dsimp only at ht
    rw [lookup_raise, hn] at ht
    cases ht
  · rw [record_inFlight, hn] at ht
    cases ht
  · dsimp only at ht
    rw [List.lookup_append, hn, Option.none_or] at ht
    cases List.mem_singleton.1 (Lookup.mem_of_lookup ht)
    exact ⟨rfl, rfl⟩

theorem max_self_generation (g : UInt64) : max g g = g := by
  show (if g ≤ g then g else g) = g
  split <;> rfl

theorem lookup_requestAll_of_some (h : Tidy fetchable loader) (generation : UInt64)
    (urls : List String) {other : String} {tag : UInt64}
    (ht : loader.inFlight.lookup other = some tag) :
    (requestAll fetchable generation urls loader).2.inFlight.lookup other =
      some (if other ∈ urls then max tag generation else tag) := by
  induction urls generalizing loader tag with
  | nil => simpa [requestAll] using ht
  | cons url rest ih =>
    have hrest := ih (tidy_requestOne h generation url) (lookup_requestOne_of_some h ht)
    refine hrest.trans (congrArg some ?_)
    by_cases ho : other = url
    · subst ho
      by_cases hr : other ∈ rest <;> simp [hr, max_max_generation]
    · simp [ho]

theorem lookup_requestAll_of_none (h : Tidy fetchable loader) {urls : List String} {other : String}
    {tag : UInt64} (hn : loader.inFlight.lookup other = none)
    (ht : (requestAll fetchable generation urls loader).2.inFlight.lookup other = some tag) :
    other ∈ urls ∧ tag = generation := by
  induction urls generalizing loader with
  | nil =>
    rw [requestAll, hn] at ht
    cases ht
  | cons url rest ih =>
    have htidy := tidy_requestOne h generation url
    cases hfirst : (loader.requestOne fetchable generation url).2.inFlight.lookup other with
    | none =>
      obtain ⟨hr, htag⟩ := ih htidy hfirst ht
      exact ⟨List.mem_cons_of_mem _ hr, htag⟩
    | some first =>
      obtain ⟨rfl, rfl⟩ := lookup_requestOne_of_none hn hfirst
      have hlater := lookup_requestAll_of_some htidy first rest hfirst
      refine ⟨List.mem_cons_self, Option.some.inj (ht.symm.trans (hlater.trans ?_))⟩
      split
      · rw [max_self_generation]
      · rfl

/-! ### Steps -/

/-- Something that happens to a loader. -/
inductive Step where
  | request (tree : RenderTree) (generation : UInt64)
  | finish (url : String) (outcome : Except FetchError (List UInt8))
  | cancelStale (generation : UInt64)

def step (fetchable : String → Bool) (loader : Loader) : Step → Loader
  | .request tree generation => (loader.request fetchable tree generation).2
  | .finish url outcome => loader.finish url outcome
  | .cancelStale generation => (loader.cancelStale generation).2

def run (fetchable : String → Bool) (loader : Loader) : List Step → Loader
  | [] => loader
  | x :: rest => run fetchable (loader.step fetchable x) rest

theorem run_append (loader : Loader) (steps more : List Step) :
    run fetchable loader (steps ++ more) = run fetchable (run fetchable loader steps) more := by
  induction steps generalizing loader with
  | nil => rfl
  | cons x rest ih => exact ih (loader.step fetchable x)

theorem tidy_step (h : Tidy fetchable loader) (x : Step) :
    Tidy fetchable (loader.step fetchable x) := by
  cases x with
  | request tree generation => exact tidy_requestAll h generation _
  | finish url outcome => exact tidy_finish h url outcome
  | cancelStale generation => exact tidy_cancelStale h generation

theorem tidy_run (h : Tidy fetchable loader) (steps : List Step) :
    Tidy fetchable (run fetchable loader steps) := by
  induction steps generalizing loader with
  | nil => exact h
  | cons x rest ih => exact ih (tidy_step h x)

end Loader
end Screens
