import Mathlib.Data.List.Perm.Subperm
import Screens.Proofs.Resources.Run

/-! What a pass refuses.

A URL that cannot be fetched is never on its way: a pass that comes upon it refuses it,
unless a failure is cached that will do for the pass. Of the cache and the events a pass
changes nothing else (`requestAll_cache`, `requestAll_events`).

The cache is bounded, so a failure may be dropped before the pass has come to its end, and
the URL is refused again if the tree has it once more. `refusals_latest` says when that
cannot be: what has been refused stays the latest that is cached, so with no more different
URLs to refuse than the cache has places each is refused once. `refusals_of_crowd` says that
one URL more is too many. -/
namespace Screens.Loader

variable {fetchable : String → Bool} {loader : Loader} {generation : UInt64}

/-- What is cached for a URL that cannot be fetched. -/
def failure (generation : UInt64) (url : String) : FetchResult :=
  .failed (FetchError.unsupportedUrl url).message generation

/-- What is told of it. -/
def refusal (generation : UInt64) (url : String) : ResourceEvent :=
  .failed url generation (FetchError.unsupportedUrl url).message

/-- A pass that comes upon the URL refuses it. -/
def Refuses (fetchable : String → Bool) (generation : UInt64) (loader : Loader) (url : String) :
    Prop := fetchable url = false ∧ ¬ loader.Settled url generation

instance (loader : Loader) (url : String) :
    Decidable (Refuses fetchable generation loader url) := inferInstanceAs (Decidable (_ ∧ _))

/-- The URLs a pass refuses, in the order it comes upon them. -/
def refusals (fetchable : String → Bool) (generation : UInt64) : List String → Loader → List String
  | [], _ => []
  | url :: rest, loader =>
    (if Refuses fetchable generation loader url then [url] else []) ++
      refusals fetchable generation rest (loader.requestOne fetchable generation url).2

theorem failure_settles (generation : UInt64) (url : String) :
    (failure generation url).settles generation = true :=
  decide_eq_true (UInt64.le_refl generation)

/-- Asking for a URL leaves the cache and the events alone unless it is refused. -/
theorem requestOne_refuses (h : Tidy fetchable loader) (generation : UInt64) (url : String) :
    (Refuses fetchable generation loader url ∧
      (loader.requestOne fetchable generation url).2.cache =
        loader.cache.insert url (failure generation url) ∧
      (loader.requestOne fetchable generation url).2.events =
        loader.events ++ [refusal generation url]) ∨
    (¬ Refuses fetchable generation loader url ∧
      (loader.requestOne fetchable generation url).2.cache = loader.cache ∧
      (loader.requestOne fetchable generation url).2.events = loader.events) := by
  rcases requestOne_cases fetchable generation loader url with
    ⟨hs, he⟩ | ⟨_, hm, he⟩ | ⟨hs, _, hf, he⟩ | ⟨_, _, hf, he⟩ <;> rw [he]
  · exact .inr ⟨fun hr => hr.2 hs, rfl, rfl⟩
  · have hf := h.fetchable url hm
    exact .inr ⟨fun hr => Bool.false_ne_true (hr.1.symm.trans hf), rfl, rfl⟩
  · exact .inl ⟨⟨hf, hs⟩, rfl, rfl⟩
  · exact .inr ⟨fun hr => Bool.false_ne_true (hr.1.symm.trans hf), rfl, rfl⟩

/-! ### What a whole pass leaves -/

theorem requestAll_cache (h : Tidy fetchable loader) (generation : UInt64) (urls : List String) :
    (requestAll fetchable generation urls loader).2.cache =
      (refusals fetchable generation urls loader).foldl
        (fun cache url => cache.insert url (failure generation url)) loader.cache := by
  induction urls generalizing loader with
  | nil => rfl
  | cons url rest ih =>
    refine (ih (tidy_requestOne h generation url)).trans ?_
    rw [refusals, List.foldl_append]
    rcases requestOne_refuses h generation url with ⟨hr, hc, _⟩ | ⟨hr, hc, _⟩ <;> rw [hc]
    · rw [if_pos hr]
      rfl
    · rw [if_neg hr]
      rfl

theorem requestAll_events (h : Tidy fetchable loader) (generation : UInt64) (urls : List String) :
    (requestAll fetchable generation urls loader).2.events =
      loader.events ++ (refusals fetchable generation urls loader).map (refusal generation) := by
  induction urls generalizing loader with
  | nil => exact (List.append_nil _).symm
  | cons url rest ih =>
    refine (ih (tidy_requestOne h generation url)).trans ?_
    rw [refusals, List.map_append, ← List.append_assoc]
    rcases requestOne_refuses h generation url with ⟨hr, _, he⟩ | ⟨hr, _, he⟩ <;> rw [he]
    · rw [if_pos hr]
      rfl
    · rw [if_neg hr, List.map_nil, List.append_nil]

theorem refusals_append (fetchable : String → Bool) (generation : UInt64) (urls more : List String)
    (loader : Loader) : refusals fetchable generation (urls ++ more) loader =
      refusals fetchable generation urls loader ++
        refusals fetchable generation more (requestAll fetchable generation urls loader).2 := by
  induction urls generalizing loader with
  | nil => rfl
  | cons url rest ih =>
    rw [List.cons_append, refusals, ih, refusals, List.append_assoc]
    rfl

theorem of_mem_refusals {urls : List String} {url : String}
    (h : url ∈ refusals fetchable generation urls loader) : url ∈ urls ∧ fetchable url = false := by
  induction urls generalizing loader with
  | nil => cases h
  | cons first rest ih =>
    rcases List.mem_append.1 h with h | h
    · split at h
      · rename_i hr
        rw [List.mem_singleton.1 h]
        exact ⟨List.mem_cons_self, hr.1⟩
      · cases h
    · obtain ⟨hm, hf⟩ := ih h
      exact ⟨List.mem_cons_of_mem first hm, hf⟩

/-- Asking for one URL settles no other. -/
theorem settled_of_requestOne (h : Tidy fetchable loader) {url other : String} (hne : other ≠ url)
    (hs : (loader.requestOne fetchable generation url).2.Settled other generation) :
    loader.Settled other generation := by
  obtain ⟨result, hk, hs⟩ := hs
  refine ⟨result, ?_, hs⟩
  rcases requestOne_refuses h generation url with ⟨_, hc, _⟩ | ⟨_, hc, _⟩ <;> rw [hc] at hk
  · exact ResultCache.get?_of_insert h.kept hne hk
  · exact hk

/-- What is refused at the outset is refused when the pass comes upon it. -/
theorem mem_refusals (h : Tidy fetchable loader) {urls : List String} {url : String}
    (hm : url ∈ urls) (hr : Refuses fetchable generation loader url) :
    url ∈ refusals fetchable generation urls loader := by
  induction urls generalizing loader with
  | nil => cases hm
  | cons first rest ih =>
    by_cases hfirst : url = first
    · subst hfirst
      rw [refusals, if_pos hr]
      exact List.mem_append_left _ List.mem_cons_self
    · refine List.mem_append_right _ (ih (tidy_requestOne h generation first) ?_ ?_)
      · exact (List.mem_cons.1 hm).resolve_left hfirst
      · exact ⟨hr.1, fun hs => hr.2 (settled_of_requestOne h hfirst hs)⟩

/-- Different URLs that are refused at the outset are refused one by one. -/
theorem refusals_of_nodup (h : Tidy fetchable loader) {urls : List String} (hd : urls.Nodup)
    (hr : ∀ url ∈ urls, Refuses fetchable generation loader url) :
    refusals fetchable generation urls loader = urls := by
  induction urls generalizing loader with
  | nil => rfl
  | cons url rest ih =>
    obtain ⟨hnot, hrest⟩ := List.nodup_cons.1 hd
    have hlater := ih (tidy_requestOne h generation url) hrest fun other ho =>
      ⟨(hr other (List.mem_cons_of_mem url ho)).1, fun hs =>
        (hr other (List.mem_cons_of_mem url ho)).2
          (settled_of_requestOne h (ne_of_mem_of_not_mem ho hnot) hs)⟩
    rw [refusals, if_pos (hr url List.mem_cons_self), hlater]
    rfl

/-! ### What stays cached -/

/-- What is cached for URLs that cannot be fetched. -/
def failures (generation : UInt64) (urls : List String) : List (String × FetchResult) :=
  urls.map fun url => (url, failure generation url)

theorem length_failures (generation : UInt64) (urls : List String) :
    (failures generation urls).length = urls.length := List.length_map _

theorem failures_keys (generation : UInt64) (urls : List String) :
    (failures generation urls).map (·.1) = urls := by
  rw [failures, List.map_map]
  exact List.map_id urls

theorem weight_failures (generation : UInt64) (urls : List String) :
    ResultCache.weight (failures generation urls) = 0 := by
  refine ResultCache.weight_eq_zero fun e he => ?_
  obtain ⟨url, _, rfl⟩ := List.mem_map.1 he
  rfl

theorem failures_filter (generation : UInt64) {urls : List String} {url : String} (h : url ∉ urls) :
    (failures generation urls).filter (·.1 != url) = failures generation urls :=
  Lookup.filter_ne_eq_self (by rwa [failures_keys])

/-- The URLs are different, and their failures are the latest that is cached. -/
structure Latest (generation : UInt64) (refused : List String) (loader : Loader) : Prop where
  distinct : refused.Nodup
  latest : failures generation refused <:+ loader.cache.entries

theorem latest_nil (generation : UInt64) (loader : Loader) : Latest generation [] loader :=
  ⟨List.nodup_nil, List.nil_suffix⟩

theorem Latest.get? {refused : List String} (hl : Latest generation refused loader)
    (h : loader.cache.Kept) {url : String} (hu : url ∈ refused) :
    loader.cache.get? url = some (failure generation url) :=
  Lookup.lookup_of_mem h.distinct (hl.latest.subset (List.mem_map.2 ⟨url, hu, rfl⟩))

/-- As long as there is room, the next refused URL is the latest, before it those that were. -/
theorem Latest.insert {refused : List String} (hl : Latest generation refused loader)
    (h : loader.cache.Kept) {url : String} (hnew : url ∉ refused)
    (hroom : (refused ++ [url]).length ≤ entryLimit) :
    failures generation (refused ++ [url]) <:+
      (loader.cache.insert url (failure generation url)).entries := by
  have hothers := hl.latest.filter (·.1 != url)
  rw [failures_filter generation hnew] at hothers
  refine ResultCache.insert_longest h ?_ ⟨?_, ?_⟩
  · rw [failures, List.map_append]
    exact (List.suffix_append_inj_of_length_eq rfl).2 ⟨hothers, rfl⟩
  · rw [weight_failures]
    exact Nat.zero_le _
  · rw [length_failures]
    exact hroom

/-- While there are no more different URLs to refuse than the cache has places, what has been
refused stays the latest that is cached, and no URL is refused again. -/
theorem latest_requestAll (h : Tidy fetchable loader) {refused : List String}
    (hl : Latest generation refused loader) {pool urls : List String}
    (hpool : pool.length ≤ entryLimit) (hrefused : refused ⊆ pool)
    (hurls : ∀ url ∈ urls, fetchable url = false → url ∈ pool) :
    Latest generation (refused ++ refusals fetchable generation urls loader)
      (requestAll fetchable generation urls loader).2 := by
  induction urls generalizing loader refused with
  | nil => rwa [refusals, List.append_nil]
  | cons url rest ih =>
    have htidy := tidy_requestOne h generation url
    have hrest : ∀ other ∈ rest, fetchable other = false → other ∈ pool :=
      fun other ho => hurls other (List.mem_cons_of_mem url ho)
    rw [refusals, ← List.append_assoc]
    rcases requestOne_refuses h generation url with ⟨hr, hc, _⟩ | ⟨hr, hc, _⟩
    · rw [if_pos hr]
      have hnew : url ∉ refused := fun hm =>
        hr.2 ⟨_, hl.get? h.kept hm, failure_settles generation url⟩
      have hdistinct : (refused ++ [url]).Nodup := Lookup.nodup_snoc hl.distinct hnew
      have hsub : refused ++ [url] ⊆ pool :=
        List.append_subset.2 ⟨hrefused, by simpa using hurls url List.mem_cons_self hr.1⟩
      have hroom : (refused ++ [url]).length ≤ entryLimit :=
        Nat.le_trans (hdistinct.subperm hsub).length_le hpool
      refine ih htidy ⟨hdistinct, ?_⟩ hsub hrest
      rw [hc]
      exact hl.insert h.kept hnew hroom
    · rw [if_neg hr, List.append_nil]
      exact ih htidy ⟨hl.distinct, hc ▸ hl.latest⟩ hrefused hrest

/-- With no more different URLs to refuse than the cache has places, a pass refuses each
once, and leaves all their failures cached. -/
theorem refusals_latest (h : Tidy fetchable loader) (generation : UInt64) {pool urls : List String}
    (hpool : pool.length ≤ entryLimit) (hurls : ∀ url ∈ urls, fetchable url = false → url ∈ pool) :
    Latest generation (refusals fetchable generation urls loader)
      (requestAll fetchable generation urls loader).2 :=
  latest_requestAll h (latest_nil generation loader) hpool (List.nil_subset pool) hurls

/-- A pass that comes upon a URL again after as many others as the cache has places refuses
it twice. -/
theorem refusals_of_crowd (h : Tidy fetchable loader) {url : String} {others : List String}
    (hd : (url :: others).Nodup) (hlength : others.length = entryLimit)
    (hr : ∀ other ∈ url :: others, Refuses fetchable generation loader other) :
    refusals fetchable generation (url :: others ++ [url]) loader = url :: others ++ [url] := by
  have hall := refusals_of_nodup h hd hr
  have hothers : refusals fetchable generation others
      (loader.requestOne fetchable generation url).2 = others := by
    rw [refusals, if_pos (hr url List.mem_cons_self)] at hall
    exact List.append_cancel_left hall
  rw [refusals_append, hall]
  refine congrArg (url :: others ++ ·) ?_
  -- The failures of the others, which came after that of the URL, fill the cache.
  have hfull : url ∉ (requestAll fetchable generation (url :: others) loader).2.cache.order := by
    have hlatest := (refusals_latest (tidy_requestOne h generation url) generation
      (Nat.le_of_eq hlength) fun other ho _ => ho).latest
    have hfits := (tidy_requestAll h generation (url :: others)).kept.fits.2
    rw [hothers] at hlatest
    have heq := hlatest.eq_of_length_le (by rw [length_failures, hlength]; exact hfits)
    rw [ResultCache.order, requestAll, ← heq, failures_keys]
    exact (List.nodup_cons.1 hd).1
  have hagain : Refuses fetchable generation
      (requestAll fetchable generation (url :: others) loader).2 url := by
    refine ⟨(hr url List.mem_cons_self).1, ?_⟩
    rintro ⟨result, hk, _⟩
    rw [ResultCache.get?, Lookup.eq_none_iff_not_mem.2 hfull] at hk
    cases hk
  rw [refusals, if_pos hagain]
  rfl

end Screens.Loader
