import Screens.Proofs.Resources.Cache
import Screens.Resources.Loader

/-! What a loader keeps, and what asking for resources does to it.

A loader is `Coherent` if nothing is on its way twice, nothing on its way is known,
and all of it can be fetched. Every operation keeps this, `requestAll` only if what it
is asked for is not known. `lookup_requestAll` says what is on its way after a pass has
asked: what it asked for, with a generation at least its own, and all that was before. -/
namespace Screens.Loader

/-! ### Generations -/

theorem le_max_generation (a g : UInt64) : g ≤ max a g := by
  show g ≤ if a ≤ g then g else a
  split
  · exact UInt64.le_refl g
  · rename_i h
    exact (UInt64.le_total a g).resolve_left h

theorem max_max_generation (a g : UInt64) : max (max a g) g = max a g := by
  show (if max a g ≤ g then g else max a g) = max a g
  split
  · rename_i h
    exact UInt64.le_antisymm (le_max_generation a g) h
  · rfl

/-- The generation on a fetch after a pass has asked for its URL; `before` is the one
it had, if it was on its way. -/
def raised (generation : UInt64) (before : Option UInt64) : UInt64 :=
  (before.map (max · generation)).getD generation

theorem le_raised (g : UInt64) (before : Option UInt64) : g ≤ raised g before := by
  cases before with
  | none => exact UInt64.le_refl g
  | some a => exact le_max_generation a g

theorem raised_raised (g : UInt64) (before : Option UInt64) :
    raised g (some (raised g before)) = raised g before := by
  cases before with
  | none =>
    show (if g ≤ g then g else g) = g
    split <;> rfl
  | some a => exact max_max_generation a g

/-! ### What every loader keeps -/

structure Coherent (fetchable : String → Bool) (loader : Loader) : Prop where
  distinct : (loader.inFlight.map (·.1)).Nodup
  unknown : ∀ url ∈ loader.inFlight.map (·.1), loader.cache.get? url = none
  fetchable : ∀ url ∈ loader.inFlight.map (·.1), fetchable url = true

variable {fetchable : String → Bool} {loader : Loader} {generation : UInt64}

theorem coherent_empty (capacity : Nat) : Coherent fetchable (.empty capacity) :=
  ⟨List.nodup_nil, by simp [empty], by simp [empty]⟩

/-- What can be fetched and is known is not on its way. -/
theorem Coherent.not_mem_of_known (h : Coherent fetchable loader) {url : String}
    {result : FetchResult} (hk : loader.cache.get? url = some result) :
    url ∉ loader.inFlight.map (·.1) := by
  intro hm
  rw [h.unknown url hm] at hk
  cases hk

theorem record_inFlight (url : String) (outcome : Except FetchError (List UInt8)) :
    (loader.record url generation outcome).inFlight = loader.inFlight := by
  cases outcome <;> rfl

theorem record_get?_eq_none {url other : String} {outcome : Except FetchError (List UInt8)}
    (hne : other ≠ url) (h : loader.cache.get? other = none) :
    (loader.record url generation outcome).cache.get? other = none := by
  cases outcome <;> exact ResultCache.get?_insert_eq_none hne h

theorem coherent_record (h : Coherent fetchable loader) {url : String}
    {outcome : Except FetchError (List UInt8)} (hu : url ∉ loader.inFlight.map (·.1)) :
    Coherent fetchable (loader.record url generation outcome) := by
  refine ⟨?_, ?_, ?_⟩ <;> rw [record_inFlight]
  · exact h.distinct
  · intro other ho
    exact record_get?_eq_none (fun he => hu (he ▸ ho)) (h.unknown other ho)
  · exact h.fetchable

/-- Leaving fetches out keeps a loader coherent. -/
theorem coherent_filter (h : Coherent fetchable loader) (keep : String × UInt64 → Bool) :
    Coherent fetchable { loader with inFlight := loader.inFlight.filter keep } := by
  have hsub : ((loader.inFlight.filter keep).map (·.1)).Sublist (loader.inFlight.map (·.1)) :=
    List.filter_sublist.map _
  exact ⟨hsub.nodup h.distinct, fun url hu => h.unknown url (hsub.subset hu),
    fun url hu => h.fetchable url (hsub.subset hu)⟩

theorem coherent_cancelStale (h : Coherent fetchable loader) :
    Coherent fetchable (loader.cancelStale generation).2 :=
  coherent_filter h _

theorem coherent_finish (h : Coherent fetchable loader) (url : String)
    (outcome : Except FetchError (List UInt8)) : Coherent fetchable (loader.finish url outcome) := by
  unfold finish
  split
  · refine coherent_record (coherent_filter h _) fun hm => ?_
    obtain ⟨f, hf, rfl⟩ := List.mem_map.1 hm
    simpa using (List.mem_filter.1 hf).2
  · exact h

/-! ### Asking for one resource -/

/-- The fetches with the generation of one of them raised. -/
def raise (url : String) (generation : UInt64) (inFlight : List (String × UInt64)) :
    List (String × UInt64) :=
  inFlight.map fun (u, g) => (u, if u = url then max g generation else g)

/-- A pass of that generation has no need to ask for the URL. -/
def Settled (loader : Loader) (url : String) (generation : UInt64) : Prop :=
  ∃ result, loader.cache.get? url = some result ∧ result.settles generation = true

theorem settled_iff {url : String} : loader.Settled url generation ↔
    ((loader.cache.get? url).map (·.settles generation)).getD false = true := by
  unfold Settled
  cases loader.cache.get? url <;> simp

instance (loader : Loader) (url : String) (generation : UInt64) :
    Decidable (loader.Settled url generation) := decidable_of_iff _ settled_iff.symm

/-- What asking for a resource does: nothing if it is settled; else the fetch on its way
carries the generation too; else a URL that cannot be fetched has failed; else a fetch
starts. -/
theorem requestOne_cases (fetchable : String → Bool) (generation : UInt64) (loader : Loader)
    (url : String) :
    (loader.Settled url generation ∧
      loader.requestOne fetchable generation url = (false, loader)) ∨
    (¬ loader.Settled url generation ∧ url ∈ loader.inFlight.map (·.1) ∧
      loader.requestOne fetchable generation url =
        (false, { loader with inFlight := raise url generation loader.inFlight })) ∨
    (¬ loader.Settled url generation ∧ url ∉ loader.inFlight.map (·.1) ∧ fetchable url = false ∧
      loader.requestOne fetchable generation url =
        (false, loader.record url generation (.error (.unsupportedUrl url)))) ∨
    (¬ loader.Settled url generation ∧ url ∉ loader.inFlight.map (·.1) ∧ fetchable url = true ∧
      loader.requestOne fetchable generation url =
        (true, { loader with inFlight := loader.inFlight ++ [(url, generation)] })) := by
  unfold requestOne
  split
  · rename_i hs
    exact .inl ⟨settled_iff.2 hs, rfl⟩
  · rename_i hs
    have hopen : ¬ loader.Settled url generation := fun h => hs (settled_iff.1 h)
    split
    · rename_i hf
      exact .inr (.inl ⟨hopen, Lookup.isSome_iff_mem.1 hf, rfl⟩)
    · rename_i hf
      have hnot : url ∉ loader.inFlight.map (·.1) := fun hm => hf (Lookup.isSome_iff_mem.2 hm)
      split
      · rename_i hr
        exact .inr (.inr (.inl ⟨hopen, hnot, by simpa using hr, rfl⟩))
      · rename_i hr
        exact .inr (.inr (.inr ⟨hopen, hnot, by simpa using hr, rfl⟩))

theorem raise_keys (url : String) (generation : UInt64) (inFlight : List (String × UInt64)) :
    (raise url generation inFlight).map (·.1) = inFlight.map (·.1) := by
  simp [raise, Function.comp_def]

theorem lookup_raise (url other : String) (generation : UInt64) (inFlight : List (String × UInt64)) :
    (raise url generation inFlight).lookup other =
      (inFlight.lookup other).map fun g => if other = url then max g generation else g :=
  Lookup.lookup_map (fun u g => if u = url then max g generation else g) inFlight other

section Started

variable {inFlight : List (String × UInt64)} {url : String}

theorem nodup_started (h : (inFlight.map (·.1)).Nodup) (hn : url ∉ inFlight.map (·.1)) :
    ((inFlight ++ [(url, generation)]).map (·.1)).Nodup := by
  rw [List.map_append]
  exact Lookup.nodup_snoc h hn

/-- What holds of the URLs on their way and of one more holds of all once that is started. -/
theorem forall_started {p : String → Prop} (h : ∀ other ∈ inFlight.map (·.1), p other)
    (hu : p url) : ∀ other ∈ (inFlight ++ [(url, generation)]).map (·.1), p other := by
  rw [List.map_append]
  intro other ho
  rcases List.mem_append.1 ho with ho | ho
  · exact h other ho
  · rwa [List.mem_singleton.1 ho]

end Started

/-- Asking makes no other URL known that can be fetched, nor the URL itself. -/
theorem requestOne_get?_eq_none {url other : String} (ho : fetchable other = true)
    (h : loader.cache.get? other = none) :
    (loader.requestOne fetchable generation url).2.cache.get? other = none := by
  rcases requestOne_cases fetchable generation loader url with
    ⟨_, he⟩ | ⟨_, _, he⟩ | ⟨_, _, hr, he⟩ | ⟨_, _, _, he⟩ <;> rw [he]
  · exact h
  · exact h
  · refine record_get?_eq_none (fun hou => ?_) h
    rw [hou, hr] at ho
    cases ho
  · exact h

theorem coherent_requestOne (h : Coherent fetchable loader) {url : String}
    (hu : fetchable url = true → loader.cache.get? url = none) :
    Coherent fetchable (loader.requestOne fetchable generation url).2 := by
  rcases requestOne_cases fetchable generation loader url with
    ⟨_, he⟩ | ⟨_, _, he⟩ | ⟨_, hn, _, he⟩ | ⟨_, hn, hf, he⟩ <;> rw [he]
  · exact h
  · constructor <;> dsimp only <;> rw [raise_keys]
    · exact h.distinct
    · exact h.unknown
    · exact h.fetchable
  · dsimp only
    exact coherent_record h hn
  · exact ⟨nodup_started h.distinct hn, forall_started h.unknown (hu hf),
      forall_started h.fetchable hf⟩

/-- Asking for a URL that is not known has it fetched, and changes no other fetch. -/
theorem lookup_requestOne (h : Coherent fetchable loader) {url : String}
    (hu : fetchable url = true → loader.cache.get? url = none) (other : String) :
    (loader.requestOne fetchable generation url).2.inFlight.lookup other =
      if other = url ∧ fetchable url = true then
        some (raised generation (loader.inFlight.lookup other))
      else loader.inFlight.lookup other := by
  rcases requestOne_cases fetchable generation loader url with
    ⟨⟨result, hk, _⟩, he⟩ | ⟨_, hm, he⟩ | ⟨_, _, hf, he⟩ | ⟨_, hn, hf, he⟩ <;> rw [he]
  · have hf : fetchable url = false := by
      cases hf : fetchable url
      · rfl
      · rw [hu hf] at hk
        cases hk
    simp [hf]
  · have hf := h.fetchable url hm
    dsimp only
    rw [lookup_raise]
    by_cases ho : other = url
    · subst ho
      obtain ⟨g, hg⟩ := Option.isSome_iff_exists.1 (Lookup.isSome_iff_mem.2 hm)
      simp [hf, hg, raised]
    · simp [ho]
  · simp [record_inFlight, hf]
  · have hnone := Lookup.eq_none_iff_not_mem.2 hn
    dsimp only
    rw [List.lookup_append, List.lookup_cons]
    by_cases ho : other = url
    · subst ho
      simp [hf, hnone, raised]
    · simp [ho, beq_eq_false_iff_ne.2 ho]

/-! ### Asking for all of them -/

theorem coherent_requestAll (h : Coherent fetchable loader) {urls : List String}
    (hu : ∀ url ∈ urls, fetchable url = true → loader.cache.get? url = none) :
    Coherent fetchable (requestAll fetchable generation urls loader).2 := by
  induction urls generalizing loader with
  | nil => exact h
  | cons url rest ih =>
    refine ih (coherent_requestOne h (hu url List.mem_cons_self)) fun other ho hf => ?_
    exact requestOne_get?_eq_none hf (hu other (List.mem_cons_of_mem _ ho) hf)

/-- After a pass asked for URLs that are not known, each of them that can be fetched is
on its way, with a generation at least the pass's; all else is as it was. -/
theorem lookup_requestAll (h : Coherent fetchable loader) {urls : List String}
    (hu : ∀ url ∈ urls, fetchable url = true → loader.cache.get? url = none) (other : String) :
    (requestAll fetchable generation urls loader).2.inFlight.lookup other =
      if other ∈ urls ∧ fetchable other = true then
        some (raised generation (loader.inFlight.lookup other))
      else loader.inFlight.lookup other := by
  induction urls generalizing loader with
  | nil => simp [requestAll]
  | cons url rest ih =>
    have hfirst := hu url List.mem_cons_self
    have hrest : ∀ u ∈ rest, fetchable u = true →
        (loader.requestOne fetchable generation url).2.cache.get? u = none := fun u hm hf =>
      requestOne_get?_eq_none hf (hu u (List.mem_cons_of_mem _ hm) hf)
    have hstep := ih (coherent_requestOne h hfirst) hrest
    rw [lookup_requestOne h hfirst other] at hstep
    show (requestAll fetchable generation rest
      (loader.requestOne fetchable generation url).2).2.inFlight.lookup other = _
    rw [hstep]
    by_cases hf : fetchable other = true
    · by_cases ho : other = url
      · subst ho
        simp [hf, raised_raised]
      · simp [ho]
    · by_cases ho : other = url
      · subst ho
        simp [hf]
      · simp [ho]

/-! ### The order of the fetches -/

/-- The fetches with the generations of those for the URLs raised. -/
def raiseAll (urls : List String) (generation : UInt64) (inFlight : List (String × UInt64)) :
    List (String × UInt64) :=
  inFlight.map fun f => (f.1, if f.1 ∈ urls then max f.2 generation else f.2)

theorem raiseAll_of_not_mem {urls : List String} {inFlight : List (String × UInt64)}
    (h : ∀ url ∈ urls, url ∉ inFlight.map (·.1)) :
    raiseAll urls generation inFlight = inFlight := by
  have hsame : ∀ f ∈ inFlight, (f.1, if f.1 ∈ urls then max f.2 generation else f.2) = f := by
    intro f hf
    rw [if_neg fun hm => h f.1 hm (List.mem_map_of_mem hf)]
  exact (List.map_congr_left hsame).trans (List.map_id inFlight)

theorem raiseAll_raiseAll (urls more : List String) (inFlight : List (String × UInt64)) :
    raiseAll more generation (raiseAll urls generation inFlight) =
      raiseAll (urls ++ more) generation inFlight := by
  rw [raiseAll, raiseAll, List.map_map]
  refine List.map_congr_left fun f _ => ?_
  by_cases hu : f.1 ∈ urls
  · by_cases hm : f.1 ∈ more <;> simp [hu, hm, max_max_generation]
  · by_cases hm : f.1 ∈ more <;> simp [hu, hm]

/-- A fetch of the pass itself is not raised. -/
theorem raiseAll_started (urls started : List String) :
    raiseAll urls generation (started.map (·, generation)) = started.map (·, generation) := by
  have hself : max generation generation = generation := by
    show (if generation ≤ generation then generation else generation) = generation
    split <;> rfl
  simp [raiseAll, Function.comp_def, hself]

/-- Asking for a URL keeps the fetches on their way where they stand; what is started
comes after them. -/
theorem requestOne_inFlight (h : Coherent fetchable loader) (generation : UInt64) (url : String) :
    ∃ started : List String, (∀ u ∈ started, u = url ∧ u ∉ loader.inFlight.map (·.1)) ∧
      (loader.requestOne fetchable generation url).2.inFlight =
        raiseAll [url] generation loader.inFlight ++ started.map (·, generation) := by
  have hkeep (hn : url ∉ loader.inFlight.map (·.1)) :
      raiseAll [url] generation loader.inFlight = loader.inFlight :=
    raiseAll_of_not_mem fun u hmem => by rwa [List.mem_singleton.1 hmem]
  rcases requestOne_cases fetchable generation loader url with
    ⟨⟨result, hk, _⟩, he⟩ | ⟨_, _, he⟩ | ⟨_, hn, _, he⟩ | ⟨_, hn, _, he⟩ <;> rw [he]
  · exact ⟨[], by simp, by rw [hkeep (h.not_mem_of_known hk)]; simp⟩
  · exact ⟨[], by simp, by simp [raise, raiseAll]⟩
  · exact ⟨[], by simp, by rw [record_inFlight, hkeep hn]; simp⟩
  · exact ⟨[url], by simpa using hn, by rw [hkeep hn]; rfl⟩

/-- Asking for URLs keeps the fetches on their way where they stand, those asked for with
a generation at least the pass's; what is started comes after them. -/
theorem requestAll_inFlight (h : Coherent fetchable loader) (generation : UInt64)
    {urls : List String} (hu : ∀ url ∈ urls, fetchable url = true → loader.cache.get? url = none) :
    ∃ started : List String,
      (∀ url ∈ started, url ∈ urls ∧ url ∉ loader.inFlight.map (·.1)) ∧
      (requestAll fetchable generation urls loader).2.inFlight =
        raiseAll urls generation loader.inFlight ++ started.map (·, generation) := by
  induction urls generalizing loader with
  | nil => exact ⟨[], by simp, by simp [requestAll, raiseAll]⟩
  | cons url rest ih =>
    have hfirst := hu url List.mem_cons_self
    have hrest : ∀ u ∈ rest, fetchable u = true →
        (loader.requestOne fetchable generation url).2.cache.get? u = none := fun u hm hf =>
      requestOne_get?_eq_none hf (hu u (List.mem_cons_of_mem _ hm) hf)
    obtain ⟨first, hf, hone⟩ := requestOne_inFlight h generation url
    obtain ⟨later, hl, hall⟩ := ih (coherent_requestOne h hfirst) hrest
    rw [hone] at hl hall
    refine ⟨first ++ later, fun u hm => ?_, ?_⟩
    · rcases List.mem_append.1 hm with hm | hm
      · obtain ⟨rfl, hn⟩ := hf u hm
        exact ⟨List.mem_cons_self, hn⟩
      · obtain ⟨hmem, hn⟩ := hl u hm
        refine ⟨List.mem_cons_of_mem _ hmem, fun hin => hn ?_⟩
        simpa [raiseAll, Function.comp_def] using Or.inl hin
    · show (requestAll fetchable generation rest
        (loader.requestOne fetchable generation url).2).2.inFlight = _
      rw [hall, raiseAll, List.map_append, ← raiseAll, ← raiseAll, raiseAll_raiseAll,
        raiseAll_started, List.map_append, List.append_assoc]
      rfl

end Screens.Loader
