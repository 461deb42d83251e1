import Mathlib.Data.List.Count
import Mathlib.Data.List.Dedup
import Mathlib.Data.List.Induction
import Screens.Proofs.Render.Path
import Screens.Proofs.Resources.Refusal

/-! What becomes of every fetch.

A fetch is started by a pass and then ends or is aborted, and till then it is on its way
(`balance_run`). It is for the newest pass that asked for its URL since it started: the step
that started it is found by going back through the run (`exists_began`), and each later pass
that asks raises its generation or finds it greater. With that generation it leaves one result
and one event when it ends. What cannot be fetched never starts, and is refused.

`run_accounts` puts this together. -/
namespace Screens.Loader

variable {fetchable : String → Bool} {loader : Loader}

/-! ### Counts -/

/-- The fetches a step starts. -/
def started (fetchable : String → Bool) (loader : Loader) : Step → Nat
  | .request tree generation => (loader.request fetchable tree generation).1
  | .finish .. | .cancelStale _ => 0

/-- The fetches that end with a step. -/
def ended (loader : Loader) : Step → Nat
  | .finish url _ => if url ∈ loader.inFlight.map (·.1) then 1 else 0
  | .request .. | .cancelStale _ => 0

/-- The fetches a step aborts. -/
def aborted (loader : Loader) : Step → Nat
  | .cancelStale generation => (loader.cancelStale generation).1
  | .request .. | .finish .. => 0

/-- The URLs a step refuses. -/
def refused (fetchable : String → Bool) (loader : Loader) : Step → Nat
  | .request tree generation =>
    (refusals fetchable generation (wanted tree.resources) loader).length
  | .finish .. | .cancelStale _ => 0

/-- A count over all steps of a run. -/
def total (fetchable : String → Bool) (count : Loader → Step → Nat) (loader : Loader) :
    List Step → Nat
  | [] => 0
  | x :: rest => count loader x + total fetchable count (loader.step fetchable x) rest

/-- What is on its way ends with one result and one event; else nothing happens. -/
theorem finish_cases (loader : Loader) (url : String) (outcome : Except FetchError (List UInt8)) :
    (∃ tag, loader.inFlight.lookup url = some tag ∧ loader.finish url outcome =
      { cache := loader.cache.insert url (.of outcome tag)
        inFlight := loader.inFlight.filter (·.1 != url)
        events := loader.events ++ [.of url tag outcome] }) ∨
    (url ∉ loader.inFlight.map (·.1) ∧ loader.finish url outcome = loader) := by
  unfold finish
  cases ht : loader.inFlight.lookup url with
  | none => exact .inr ⟨Lookup.eq_none_iff_not_mem.1 ht, rfl⟩
  | some tag => exact .inl ⟨tag, rfl, record_eq _ url tag outcome⟩

theorem length_filter_ne {inFlight : List (String × UInt64)} (hd : (inFlight.map (·.1)).Nodup)
    {url : String} (hm : url ∈ inFlight.map (·.1)) :
    (inFlight.filter (·.1 != url)).length + 1 = inFlight.length := by
  have hkeys : (inFlight.filter (·.1 != url)).map (·.1) = (inFlight.map (·.1)).erase url := by
    rw [hd.erase_eq_filter, List.filter_map]
    rfl
  have hlength := congrArg List.length hkeys
  rw [List.length_map, List.length_erase_of_mem hm, List.length_map] at hlength
  have hpos : 0 < inFlight.length := by simpa using List.length_pos_of_mem hm
  omega

theorem balance_step (h : Tidy fetchable loader) (x : Step) :
    (loader.step fetchable x).inFlight.length + ended loader x + aborted loader x =
      loader.inFlight.length + started fetchable loader x := by
  cases x with
  | request tree generation => exact requestAll_count fetchable loader generation _
  | finish url outcome =>
    rw [step, ended]
    rcases finish_cases loader url outcome with ⟨tag, ht, he⟩ | ⟨hn, he⟩ <;> rw [he]
    · have hm := Lookup.mem_keys_of_lookup ht
      rw [if_pos hm]
      exact length_filter_ne h.distinct hm
    · rw [if_neg hn]
      rfl
  | cancelStale generation =>
    have hle := loader.inFlight.length_filter_le fun f => generation ≤ f.2
    show (loader.inFlight.filter _).length + 0 +
      (loader.inFlight.length - (loader.inFlight.filter _).length) = _
    rw [started]
    omega

theorem told_step (h : Tidy fetchable loader) (x : Step) :
    (loader.step fetchable x).events.length =
      loader.events.length + ended loader x + refused fetchable loader x := by
  cases x with
  | request tree generation =>
    rw [step, request, requestAll_events h, List.length_append, List.length_map]
    rfl
  | finish url outcome =>
    rw [step, ended]
    rcases finish_cases loader url outcome with ⟨tag, ht, he⟩ | ⟨hn, he⟩ <;> rw [he]
    · rw [if_pos (Lookup.mem_keys_of_lookup ht)]
      simp [refused]
    · rw [if_neg hn]
      rfl
  | cancelStale generation => rfl

theorem balance_run (h : Tidy fetchable loader) (steps : List Step) :
    (run fetchable loader steps).inFlight.length + total fetchable ended loader steps +
        total fetchable aborted loader steps =
      loader.inFlight.length + total fetchable (started fetchable) loader steps := by
  induction steps generalizing loader with
  | nil => rfl
  | cons x rest ih =>
    have hstep := balance_step h x
    have hrest := ih (tidy_step h x)
    simp only [run, total]
    omega

theorem told_run (h : Tidy fetchable loader) (steps : List Step) :
    (run fetchable loader steps).events.length =
      loader.events.length + total fetchable ended loader steps +
        total fetchable (refused fetchable) loader steps := by
  induction steps generalizing loader with
  | nil => rfl
  | cons x rest ih =>
    have hstep := told_step h x
    have hrest := ih (tidy_step h x)
    simp only [run, total]
    omega

/-! ### The pass a fetch is for -/

/-- The generation for which a step asks for a URL. -/
def asked (url : String) : Step → Option UInt64
  | .request tree generation => if url ∈ wanted tree.resources then some generation else none
  | .finish .. | .cancelStale _ => none

/-- It is one of the generations, and none is greater. -/
def Greatest (tag : UInt64) (generations : List UInt64) : Prop :=
  tag ∈ generations ∧ ∀ g ∈ generations, g ≤ tag

theorem greatest_append {tag : UInt64} {generations : List UInt64} (h : Greatest tag generations)
    (g : UInt64) : Greatest (max tag g) (generations ++ [g]) := by
  have hmax : max tag g = if tag ≤ g then g else tag := rfl
  constructor
  · rw [hmax]
    split
    · exact List.mem_append_right _ List.mem_cons_self
    · exact List.mem_append_left _ h.1
  · intro k hk
    rcases List.mem_append.1 hk with hk | hk
    · refine UInt64.le_trans (h.2 k hk) ?_
      rw [hmax]
      split
      · assumption
      · exact UInt64.le_refl tag
    · rw [List.mem_singleton.1 hk]
      exact le_max_generation tag g

theorem lookup_of_finish (h : Tidy fetchable loader) {url other : String} {tag : UInt64}
    {outcome : Except FetchError (List UInt8)}
    (hl : (loader.finish other outcome).inFlight.lookup url = some tag) :
    loader.inFlight.lookup url = some tag := by
  rcases finish_cases loader other outcome with ⟨_, _, he⟩ | ⟨_, he⟩ <;> rw [he] at hl
  · exact Lookup.lookup_of_lookup_filter h.distinct hl
  · exact hl

/-- What stays on its way is for the same pass, or for the one that asked if that is newer. -/
theorem tag_of_step (h : Tidy fetchable loader) {x : Step} {url : String} {tag later : UInt64}
    (ht : loader.inFlight.lookup url = some tag)
    (hl : (loader.step fetchable x).inFlight.lookup url = some later) :
    later = ((asked url x).map (max tag)).getD tag := by
  cases x with
  | request tree generation =>
    rw [step, request, lookup_requestAll_of_some h generation _ ht] at hl
    rw [← Option.some.inj hl, asked]
    split <;> rfl
  | finish other outcome => exact Option.some.inj ((lookup_of_finish h hl).symm.trans ht)
  | cancelStale generation =>
    exact Option.some.inj ((Lookup.lookup_of_lookup_filter h.distinct hl).symm.trans ht)

/-- What comes on its way does so for the pass that asks for it. -/
theorem asked_of_step (h : Tidy fetchable loader) {x : Step} {url : String} {tag : UInt64}
    (hn : loader.inFlight.lookup url = none)
    (hl : (loader.step fetchable x).inFlight.lookup url = some tag) : asked url x = some tag := by
  cases x with
  | request tree generation =>
    obtain ⟨hm, rfl⟩ := lookup_requestAll_of_none h hn hl
    exact if_pos hm
  | finish other outcome =>
    rw [lookup_of_finish h hl] at hn
    cases hn
  | cancelStale generation =>
    rw [Lookup.lookup_of_lookup_filter h.distinct hl] at hn
    cases hn

/-- After `before` nothing was on its way for the URL; after each of the steps since then
there was. -/
structure Began (fetchable : String → Bool) (start : Loader) (url : String)
    (before since : List Step) : Prop where
  absent : url ∉ (run fetchable start before).inFlight.map (·.1)
  kept : ∀ part, part ≠ [] → part <+: since →
    url ∈ (run fetchable start (before ++ part)).inFlight.map (·.1)

/-- A fetch on its way began with one of the steps, and is for the newest pass that has asked
for its URL since. -/
theorem exists_began {start : Loader} (h : Tidy fetchable start) (hstart : start.inFlight = [])
    {steps : List Step} {url : String} {tag : UInt64}
    (ht : (run fetchable start steps).inFlight.lookup url = some tag) :
    ∃ before since, steps = before ++ since ∧ Began fetchable start url before since ∧
      Greatest tag (since.filterMap (asked url)) := by
  induction steps using List.reverseRecOn generalizing tag with
  | nil =>
    rw [run, hstart] at ht
    cases ht
  | append_singleton steps x ih =>
    have hnow := Lookup.mem_keys_of_lookup ht
    rw [run_append] at ht
    have htidy := tidy_run h steps
    cases hb : (run fetchable start steps).inFlight.lookup url with
    | none =>
      have hasked := asked_of_step htidy hb ht
      refine ⟨steps, [x], rfl, ⟨Lookup.eq_none_iff_not_mem.1 hb, fun part hne hpart => ?_⟩, ?_⟩
      · obtain rfl : part = [x] := by
          rcases List.prefix_cons_iff.1 hpart with hnil | ⟨rest, rfl, hrest⟩
          · exact absurd hnil hne
          · rw [List.prefix_nil.1 hrest]
        exact hnow
      · rw [List.filterMap_cons_some hasked, List.filterMap_nil]
        exact ⟨List.mem_cons_self, fun g hg => List.mem_singleton.1 hg ▸ UInt64.le_refl g⟩
    | some first =>
      obtain ⟨before, since, rfl, hbegan, hgreatest⟩ := ih hb
      refine ⟨before, since ++ [x], List.append_assoc .., ⟨hbegan.absent, ?_⟩, ?_⟩
      · intro part hne hpart
        rcases List.prefix_concat_iff.1 hpart with rfl | hpart
        · rw [← List.append_assoc]
          exact hnow
        · exact hbegan.kept part hne hpart
      · rw [List.filterMap_append, tag_of_step htidy hb ht]
        cases hx : asked url x with
        | none =>
          rw [List.filterMap_cons_none hx, List.filterMap_nil, List.append_nil]
          exact hgreatest
        | some g =>
          rw [List.filterMap_cons_some hx, List.filterMap_nil]
          exact greatest_append hgreatest g

/-! ### Albums -/

/-- An image that still has to come. -/
def awaited (url : String) : RenderNode :=
  let image : Resource := ⟨url, .remote url, .placeholder⟩
  .mk ⟨url, .image, true, none, none, none, none, none, some image⟩ []

/-- A tree of images, each of a URL. -/
def album (urls : List String) : RenderTree := .ofNodes "album" 0 "" (urls.map awaited) []

theorem wanted_album (urls : List String) : wanted (album urls).resources = urls := by
  induction urls with
  | nil => rfl
  | cons url rest ih => exact congrArg (url :: ·) ih

/-! ### The accounts of a run -/

/-- What the fetch of a URL leaves when it ends, with the generation it is for. -/
structure Closes (loader : Loader) (url : String) (tag : UInt64)
    (outcome : Except FetchError (List UInt8)) (after : Loader) : Prop where
  gone : after.inFlight = loader.inFlight.filter (·.1 != url)
  told : after.events = loader.events ++ [.of url tag outcome]
  result : after.cache = loader.cache.insert url (.of outcome tag)
  /-- It is there, unless it is larger than the whole cache. -/
  cached : after.cache.get? url =
    if (FetchResult.of outcome tag).size ≤ loader.cache.capacity then some (.of outcome tag)
    else none

theorem closes (h : Tidy fetchable loader) {url : String} {tag : UInt64}
    (ht : loader.inFlight.lookup url = some tag) (outcome : Except FetchError (List UInt8)) :
    Closes loader url tag outcome (loader.finish url outcome) := by
  rcases finish_cases loader url outcome with ⟨found, hf, he⟩ | ⟨hn, _⟩
  · obtain rfl := Option.some.inj (ht.symm.trans hf)
    rw [he]
    exact ⟨rfl, rfl, rfl, ResultCache.get?_insert_self h.kept url _⟩
  · exact absurd (Lookup.mem_keys_of_lookup ht) hn

/-- The different URLs of some that cannot be fetched. -/
def hopeless (fetchable : String → Bool) (urls : List String) : List String :=
  (urls.filter fun url => !fetchable url).dedup

/-- What a pass that asks for some URLs makes of those that cannot be fetched. -/
structure TurnsDown (fetchable : String → Bool) (generation : UInt64) (urls : List String)
    (loader after : Loader) : Prop where
  told : after.events =
    loader.events ++ (refusals fetchable generation urls loader).map (refusal generation)
  results : after.cache = (refusals fetchable generation urls loader).foldl
    (fun cache url => cache.insert url (failure generation url)) loader.cache
  only : ∀ url ∈ refusals fetchable generation urls loader, url ∈ urls ∧ fetchable url = false
  all : ∀ url ∈ urls, Refuses fetchable generation loader url →
    url ∈ refusals fetchable generation urls loader
  /-- If the cache has a place for each of them, they are refused once and stay cached. -/
  once : (hopeless fetchable urls).length ≤ entryLimit →
    (refusals fetchable generation urls loader).Nodup ∧
      ∀ url ∈ refusals fetchable generation urls loader,
        after.cache.get? url = some (failure generation url)

theorem turnsDown (h : Tidy fetchable loader) (generation : UInt64) (urls : List String) :
    TurnsDown fetchable generation urls loader (requestAll fetchable generation urls loader).2 := by
  refine ⟨requestAll_events h generation urls, requestAll_cache h generation urls,
    fun _ hu => of_mem_refusals hu, fun _ hu hr => mem_refusals h hu hr, fun hroom => ?_⟩
  have hpool : ∀ url ∈ urls, fetchable url = false → url ∈ hopeless fetchable urls :=
    fun url hu hf => List.mem_dedup.2 (List.mem_filter.2 ⟨hu, by simp [hf]⟩)
  have hlatest := refusals_latest h generation hroom hpool
  exact ⟨hlatest.distinct, fun url hu => hlatest.get? (tidy_requestAll h generation urls).kept hu⟩

/-- What a loader that has come from a start by some steps has to show for them. -/
structure Accounts (fetchable : String → Bool) (start : Loader) (steps : List Step)
    (now : Loader) : Prop where
  /-- Every fetch that was started has ended, was aborted or is on its way. -/
  balance : total fetchable (started fetchable) start steps =
    total fetchable ended start steps + total fetchable aborted start steps + now.inFlight.length
  /-- There is one event for each fetch that has ended and for each refusal, and no other. -/
  told : now.events.length =
    total fetchable ended start steps + total fetchable (refused fetchable) start steps
  /-- No URL is fetched twice at a time. -/
  distinct : (now.inFlight.map (·.1)).Nodup
  /-- What cannot be fetched is not. -/
  valid : ∀ url ∈ now.inFlight.map (·.1), fetchable url = true
  /-- A fetch on its way is for the newest pass that has asked for its URL since it began,
  and leaves one result and one event for that pass when it ends. -/
  ends : ∀ f ∈ now.inFlight,
    (∃ before since, steps = before ++ since ∧ Began fetchable start f.1 before since ∧
      Greatest f.2 (since.filterMap (asked f.1))) ∧
    ∀ outcome, Closes now f.1 f.2 outcome (now.finish f.1 outcome)
  /-- A fetch that is aborted leaves nothing, even if it ends later. -/
  aborts : ∀ generation, (now.cancelStale generation).2.events = now.events ∧
    (now.cancelStale generation).2.cache = now.cache ∧
    ∀ f ∈ now.inFlight, f.2 < generation → ∀ outcome,
      (now.cancelStale generation).2.finish f.1 outcome = (now.cancelStale generation).2
  /-- A pass refuses what it comes upon that cannot be fetched and has no failure that will do. -/
  refuses : ∀ tree generation, TurnsDown fetchable generation (wanted tree.resources) now
    (now.request fetchable tree generation).2

theorem finish_of_aborted (h : Tidy fetchable loader) {generation : UInt64} {f : String × UInt64}
    (hf : f ∈ loader.inFlight) (hlt : f.2 < generation)
    (outcome : Except FetchError (List UInt8)) :
    (loader.cancelStale generation).2.finish f.1 outcome = (loader.cancelStale generation).2 := by
  rcases finish_cases (loader.cancelStale generation).2 f.1 outcome with ⟨tag, ht, _⟩ | ⟨_, he⟩
  · have hbefore := Lookup.lookup_of_lookup_filter h.distinct ht
    obtain rfl : f.2 = tag :=
      Option.some.inj ((Lookup.lookup_of_mem h.distinct hf).symm.trans hbefore)
    have hle : generation ≤ f.2 :=
      of_decide_eq_true (List.mem_filter.1 (Lookup.mem_of_lookup ht)).2
    exact absurd (UInt64.lt_of_lt_of_le hlt hle) (UInt64.lt_irrefl _)
  · exact he

/-- Whatever the passes, the outcomes and what can be fetched, no fetch is lost or doubled. -/
theorem run_accounts (fetchable : String → Bool) (capacity : Nat) (steps : List Step) :
    Accounts fetchable (.empty capacity) steps (run fetchable (.empty capacity) steps) := by
  have hstart : Tidy fetchable (.empty capacity) := tidy_empty capacity
  have htidy := tidy_run hstart steps
  have hbalance := balance_run hstart steps
  have htold := told_run hstart steps
  refine
    { balance := ?_
      told := ?_
      distinct := htidy.distinct
      valid := htidy.fetchable
      ends := fun f hf => ?_
      aborts := fun generation => ⟨rfl, rfl, fun f hf hlt => finish_of_aborted htidy hf hlt⟩
      refuses := fun tree generation => turnsDown htidy generation _ }
  · have hnone : (empty capacity).inFlight.length = 0 := rfl
    omega
  · have hnone : (empty capacity).events.length = 0 := rfl
    omega
  · have ht := Lookup.lookup_of_mem htidy.distinct hf
    exact ⟨exists_began hstart rfl ht, closes htidy ht⟩

/-- A late pass of an older generation takes nothing from the fetch. -/
example : (run (fun _ => true) (.empty 10) [.request (album ["a"]) 1, .request (album ["a"]) 3,
    .request (album ["a"]) 2, .finish "a" (.ok [])]).events = [.loaded "a" 3] := by decide +kernel

/-! ### A crowd -/

/-- One of many URLs that cannot be fetched. -/
def numbered (i : Nat) : String := "x:" ++ i.repr

theorem numbered_injective : Function.Injective numbered := fun _ _ h =>
  Identity.digits_injective (String.ofList_injective ((String.append_right_inj _).1 h))

/-- As many of them as the cache has places, and one more at both ends. -/
def crowd : List String :=
  numbered entryLimit :: (List.range entryLimit).map numbered ++ [numbered entryLimit]

theorem crowd_nodup : (numbered entryLimit :: (List.range entryLimit).map numbered).Nodup := by
  refine List.nodup_cons.2 ⟨fun hm => ?_, List.nodup_range.map numbered_injective⟩
  obtain ⟨i, hi, heq⟩ := List.mem_map.1 hm
  exact Nat.ne_of_lt (List.mem_range.1 hi) (numbered_injective heq)

theorem count_crowd : crowd.count (numbered entryLimit) = 2 := by
  have hother := List.count_eq_zero.2 (List.nodup_cons.1 crowd_nodup).1
  rw [crowd, List.cons_append, List.count_cons_self, List.count_append, hother,
    List.count_singleton_self]

/-- A pass on a fresh loader refuses one URL of the crowd twice, though at the outset no failure
of it is cached: there are more different URLs in it than the cache has places. -/
theorem crowded_pass_refuses_twice :
    numbered entryLimit ∈ wanted (album crowd).resources ∧
      ¬ (empty 1000).Settled (numbered entryLimit) 1 ∧ (empty 1000).events = [] ∧
      ((empty 1000).request (fun _ => false) (album crowd) 1).2.events.count
        (refusal 1 (numbered entryLimit)) = 2 := by
  have hnew (url : String) : ¬ (empty 1000).Settled url 1 := fun ⟨_, hk, _⟩ => by cases hk
  have htidy : Tidy (fun _ => false) (empty 1000) := tidy_empty 1000
  have hrefused : refusals (fun _ => false) 1 crowd (empty 1000) = crowd :=
    refusals_of_crowd htidy crowd_nodup (by simp) fun other _ => ⟨rfl, hnew other⟩
  have hinjective : Function.Injective (refusal 1) := fun _ _ h => (ResourceEvent.failed.inj h).1
  refine ⟨?_, hnew _, rfl, ?_⟩
  · rw [wanted_album]
    exact List.mem_append_right _ List.mem_cons_self
  · rw [request, wanted_album, requestAll_events htidy, hrefused]
    show ([] ++ crowd.map (refusal 1)).count _ = 2
    rw [List.nil_append, List.count_map_of_injective _ _ hinjective, count_crowd]

end Screens.Loader
