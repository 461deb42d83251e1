import Screens.Proofs.Resources.Accounts

/-! What a pass has fetched.

A pass needs a URL that is not on its way, if the cache has neither its content nor a failure
that goes up to the pass (`Needs`). As long as all URLs can be fetched the cache stays as it is
while the pass asks for them, so what it needs does not change on the way, but that a URL it
has come upon is on its way from then on. So the fetches that it starts are those for the
different URLs it needed at the outset (`mem_keys_requestAll`).

`request_starts_needed`: and once it has asked, asking again does nothing. -/
namespace Screens.Loader

variable {fetchable : String → Bool} {loader after : Loader} {generation : UInt64}
  {url : String} {urls : List String}

/-! ### Generations -/

theorem max_generation_of_le {tag g : UInt64} (h : g ≤ tag) : max tag g = tag := by
  show (if tag ≤ g then g else tag) = tag
  split
  · exact UInt64.le_antisymm h ‹tag ≤ g›
  · rfl

theorem le_max_generation_left (tag g : UInt64) : tag ≤ max tag g := by
  show tag ≤ if tag ≤ g then g else tag
  split
  · assumption
  · exact UInt64.le_refl tag

/-! ### What a pass needs -/

/-- A pass of that generation has to have the URL fetched. -/
structure Needs (loader : Loader) (generation : UInt64) (url : String) : Prop where
  idle : url ∉ loader.inFlight.map (·.1)
  notLoaded : ∀ content, loader.cache.get? url ≠ some (.loaded content)
  /-- A failure that is cached was for older passes only. -/
  outdated : ∀ reason upTo, loader.cache.get? url = some (.failed reason upTo) → upTo < generation

theorem needs_iff : loader.Needs generation url ↔
    url ∉ loader.inFlight.map (·.1) ∧ ¬ loader.Settled url generation := by
  constructor
  · rintro ⟨hidle, hload, hold⟩
    refine ⟨hidle, ?_⟩
    rintro ⟨result, hk, hs⟩
    cases result with
    | loaded content => exact hload content hk
    | failed reason upTo => exact UInt64.not_le.2 (hold reason upTo hk) (of_decide_eq_true hs)
  · rintro ⟨hidle, hopen⟩
    refine ⟨hidle, fun content hk => hopen ⟨_, hk, rfl⟩, fun reason upTo hk => ?_⟩
    exact UInt64.not_le.1 fun hle => hopen ⟨_, hk, decide_eq_true hle⟩

instance (loader : Loader) (generation : UInt64) (url : String) :
    Decidable (loader.Needs generation url) := decidable_of_iff _ needs_iff.symm

/-- The different URLs among some that a pass needs. -/
def needed (loader : Loader) (generation : UInt64) (urls : List String) : List String :=
  (urls.filter fun url => loader.Needs generation url).dedup

theorem mem_needed : url ∈ loader.needed generation urls ↔
    url ∈ urls ∧ loader.Needs generation url := by
  simp [needed]

/-! ### What comes on its way -/

theorem settled_congr (h : after.cache = loader.cache) (url : String) (generation : UInt64) :
    after.Settled url generation ↔ loader.Settled url generation := by
  unfold Settled
  rw [h]

theorem requestOne_cache_of_fetchable (h : Tidy fetchable loader) (generation : UInt64)
    (hf : fetchable url = true) :
    (loader.requestOne fetchable generation url).2.cache = loader.cache := by
  rcases requestOne_refuses h generation url with ⟨hr, _, _⟩ | ⟨_, hc, _⟩
  · exact absurd (hr.1.symm.trans hf) Bool.false_ne_true
  · exact hc

/-- A pass refuses nothing that can be fetched. -/
theorem refusals_eq_nil (hf : ∀ url ∈ urls, fetchable url = true) :
    refusals fetchable generation urls loader = [] := by
  refine List.eq_nil_iff_forall_not_mem.2 fun url hm => ?_
  obtain ⟨hmem, hnot⟩ := of_mem_refusals hm
  exact absurd (hnot.symm.trans (hf url hmem)) Bool.false_ne_true

theorem mem_keys_requestOne (hf : fetchable url = true) (other : String) :
    other ∈ (loader.requestOne fetchable generation url).2.inFlight.map (·.1) ↔
      other ∈ loader.inFlight.map (·.1) ∨ other = url ∧ ¬ loader.Settled url generation := by
  rcases requestOne_cases fetchable generation loader url with
    ⟨hs, he⟩ | ⟨_, hm, he⟩ | ⟨_, _, hnot, _⟩ | ⟨hs, _, _, he⟩
  · simp [he, hs]
  · rw [he]
    dsimp only
    rw [raise_keys]
    exact ⟨.inl, fun h => h.elim id fun h => h.1 ▸ hm⟩
  · exact absurd (hnot.symm.trans hf) Bool.false_ne_true
  · simp [he, hs]

/-- What is on its way after a pass was so before, or was asked for and is not settled. -/
theorem mem_keys_requestAll (h : Tidy fetchable loader)
    (hf : ∀ url ∈ urls, fetchable url = true) (other : String) :
    other ∈ (requestAll fetchable generation urls loader).2.inFlight.map (·.1) ↔
      other ∈ loader.inFlight.map (·.1) ∨ other ∈ urls ∧ ¬ loader.Settled other generation := by
  induction urls generalizing loader with
  | nil => simp [requestAll]
  | cons url rest ih =>
    obtain ⟨hfirst, hrest⟩ := List.forall_mem_cons.1 hf
    have hcache := requestOne_cache_of_fetchable h generation hfirst
    refine (ih (tidy_requestOne h generation url) hrest).trans ?_
    rw [mem_keys_requestOne hfirst, settled_congr hcache, List.mem_cons, or_assoc]
    refine or_congr_right ?_
    by_cases ho : other = url
    · subst ho
      simp
    · simp [ho]

/-- Where each URL is settled or on its way for the pass or a newer one, asking does nothing. -/
theorem requestAll_eq_self (hdone : ∀ url ∈ urls,
      loader.Settled url generation ∨ url ∈ loader.inFlight.map (·.1))
    (htags : ∀ f ∈ loader.inFlight, f.1 ∈ urls → generation ≤ f.2) :
    requestAll fetchable generation urls loader = (0, loader) := by
  induction urls with
  | nil => rfl
  | cons url rest ih =>
    have hraise : raise url generation loader.inFlight = loader.inFlight := by
      have hsame : ∀ f ∈ loader.inFlight,
          (f.1, if f.1 = url then max f.2 generation else f.2) = f := by
        intro f hf
        split
        · rename_i hu
          rw [max_generation_of_le (htags f hf (hu ▸ List.mem_cons_self))]
        · rfl
      exact (List.map_congr_left hsame).trans (List.map_id _)
    have hone : loader.requestOne fetchable generation url = (false, loader) := by
      rcases requestOne_cases fetchable generation loader url with
        ⟨_, he⟩ | ⟨_, _, he⟩ | ⟨hs, hn, _, _⟩ | ⟨hs, hn, _, _⟩
      · exact he
      · rw [he, hraise]
      · exact absurd ((hdone url List.mem_cons_self).resolve_left hs) hn
      · exact absurd ((hdone url List.mem_cons_self).resolve_left hs) hn
    rw [requestAll, hone]
    dsimp only
    rw [ih (fun other ho => hdone other (List.mem_cons_of_mem url ho))
      fun f hf hm => htags f hf (List.mem_cons_of_mem url hm)]
    rfl

/-! ### The whole pass -/

/-- What a loader shows after a pass that has started so many fetches for some URLs. -/
structure Supplied (loader : Loader) (generation : UInt64) (urls : List String) (count : Nat)
    (after : Loader) : Prop where
  cache : after.cache = loader.cache
  events : after.events = loader.events
  count : count = (loader.needed generation urls).length
  onWay : ∀ url, url ∈ after.inFlight.map (·.1) ↔
    url ∈ loader.inFlight.map (·.1) ∨ url ∈ loader.needed generation urls
  /-- Of the URLs, those on their way carry the generation if that is newer than what they
  carried. -/
  raised : ∀ url ∈ urls, ∀ tag, after.inFlight.lookup url = some tag →
    tag = raised generation (loader.inFlight.lookup url) ∧ generation ≤ tag ∧
      ∀ before, loader.inFlight.lookup url = some before → before ≤ tag
  others : ∀ url, url ∉ urls → after.inFlight.lookup url = loader.inFlight.lookup url

theorem tag_of_requestAll (h : Tidy fetchable loader) {tag : UInt64}
    (hu : url ∈ urls)
    (ht : (requestAll fetchable generation urls loader).2.inFlight.lookup url = some tag) :
    tag = raised generation (loader.inFlight.lookup url) := by
  cases hb : loader.inFlight.lookup url with
  | none => exact (lookup_requestAll_of_none h hb ht).2
  | some before =>
    rw [lookup_requestAll_of_some h generation urls hb, if_pos hu] at ht
    exact (Option.some.inj ht).symm

theorem lookup_requestAll_of_not_mem (h : Tidy fetchable loader) (generation : UInt64)
    (hu : url ∉ urls) : (requestAll fetchable generation urls loader).2.inFlight.lookup url =
      loader.inFlight.lookup url := by
  cases hb : loader.inFlight.lookup url with
  | none =>
    cases ha : (requestAll fetchable generation urls loader).2.inFlight.lookup url with
    | none => rfl
    | some tag => exact absurd (lookup_requestAll_of_none h hb ha).1 hu
  | some before => rw [lookup_requestAll_of_some h generation urls hb, if_neg hu]

theorem supplied (h : Tidy fetchable loader) (generation : UInt64)
    (hf : ∀ url ∈ urls, fetchable url = true) :
    Supplied loader generation urls (requestAll fetchable generation urls loader).1
      (requestAll fetchable generation urls loader).2 := by
  have honWay (url : String) :
      url ∈ (requestAll fetchable generation urls loader).2.inFlight.map (·.1) ↔
        url ∈ loader.inFlight.map (·.1) ∨ url ∈ loader.needed generation urls := by
    rw [mem_keys_requestAll h hf, mem_needed, needs_iff]
    by_cases hm : url ∈ loader.inFlight.map (·.1) <;> simp [hm]
  refine
    { cache := by rw [requestAll_cache h, refusals_eq_nil hf]; rfl
      events := by rw [requestAll_events h, refusals_eq_nil hf]; exact List.append_nil _
      count := ?_
      onWay := honWay
      raised := fun url hu tag ht => ?_
      others := fun url hu => lookup_requestAll_of_not_mem h generation hu }
  · -- No URL is on its way twice, so the fetches that were started are counted by their URLs.
    have hdistinct :
        (loader.inFlight.map (·.1) ++ loader.needed generation urls).Nodup :=
      List.nodup_append.2 ⟨h.distinct, List.nodup_dedup _, fun _ ha _ hb =>
        (ne_of_mem_of_not_mem ha (mem_needed.1 hb).2.idle)⟩
    have hperm := (List.perm_ext_iff_of_nodup (tidy_requestAll h generation urls).distinct
      hdistinct).2 fun url => (honWay url).trans List.mem_append.symm
    have hlength := hperm.length_eq
    rw [List.length_append, List.length_map, List.length_map, requestAll_count] at hlength
    omega
  · have htag := tag_of_requestAll h hu ht
    refine ⟨htag, htag ▸ le_raised generation _, fun before hb => ?_⟩
    rw [htag, hb]
    exact le_max_generation_left before generation

/-- Once a pass has asked, none of its URLs is left to ask for. -/
theorem requestAll_again (h : Tidy fetchable loader) (generation : UInt64)
    (hf : ∀ url ∈ urls, fetchable url = true) :
    requestAll fetchable generation urls (requestAll fetchable generation urls loader).2 =
      (0, (requestAll fetchable generation urls loader).2) := by
  have hs := supplied h generation hf
  refine requestAll_eq_self (fun url hu => ?_) fun f hm hu => ?_
  · by_cases hopen : loader.Settled url generation
    · exact .inl ((settled_congr hs.cache url generation).2 hopen)
    · exact .inr ((mem_keys_requestAll h hf url).2 (.inr ⟨hu, hopen⟩))
  · have ht := Lookup.lookup_of_mem (tidy_requestAll h generation urls).distinct hm
    exact (hs.raised f.1 hu f.2 ht).2.1

/-- A pass whose tree waits only for what can be fetched starts one fetch for each URL it needs,
and leaves the cache alone; those of its URLs that were on their way carry its generation if it
is the newer one, all others go on as before. Asking once more starts nothing and changes
nothing. -/
theorem request_starts_needed (fetchable : String → Bool) (capacity : Nat) (steps : List Step)
    (tree : RenderTree) (generation : UInt64)
    (hf : ∀ url ∈ wanted tree.resources, fetchable url = true) :
    let before := run fetchable (.empty capacity) steps
    let asked := before.request fetchable tree generation
    Supplied before generation (wanted tree.resources) asked.1 asked.2 ∧
      asked.2.request fetchable tree generation = (0, asked.2) :=
  have htidy := tidy_run (tidy_empty capacity) steps
  ⟨supplied htidy generation hf, requestAll_again htidy generation hf⟩

/-- Of four images one is on its way, one has come, one has failed, and the last cannot be
fetched. -/
def underway : List Step :=
  [.request (album ["http://h/a", "http://h/b", "http://h/c", "x:d"]) 4,
    .finish "http://h/b" (.ok [1, 2]), .finish "http://h/c" (.error (.unreachable "http://h/c"))]

/-- A newer pass has the failed image fetched again, and a new one that it has twice. -/
theorem newer_pass_starts_two :
    let before := run (· != "x:d") (.empty 10) underway
    let tree := album ["http://h/c", "http://h/a", "http://h/e", "http://h/b", "http://h/e"]
    let asked := before.request (· != "x:d") tree 5
    before.inFlight = [("http://h/a", 4)] ∧
      (∀ url ∈ wanted tree.resources, (url != "x:d") = true) ∧
      asked.1 = 2 ∧ asked.2.cache = before.cache ∧
      asked.2.inFlight = [("http://h/a", 5), ("http://h/c", 5), ("http://h/e", 5)] ∧
      asked.2.request (· != "x:d") tree 5 = (0, asked.2) := by
  intro before tree asked
  have hf : ∀ url ∈ wanted tree.resources, (url != "x:d") = true := by
    rw [wanted_album]
    decide
  obtain ⟨hs, hagain⟩ := request_starts_needed (· != "x:d") 10 underway tree 5 hf
  have hneeded : before.needed 5 (wanted tree.resources) = ["http://h/c", "http://h/e"] := by
    decide +kernel
  exact ⟨by decide +kernel, hf, hs.count.trans (congrArg List.length hneeded), hs.cache,
    by decide +kernel, hagain⟩

end Screens.Loader
