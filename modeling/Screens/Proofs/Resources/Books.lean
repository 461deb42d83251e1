import Screens.Config
import Screens.Proofs.Keyed.Order
import Screens.Proofs.Resources.Cache

/-! The books of the result cache.

A store that keeps its results under their URLs needs two more books, the URLs in the order
their results came and the bytes that are kept, and writes the three one after the other, so
that they disagree on the way. `Books` does so, and takes no bytes off that are not on them.

The books tell what the cache keeps and never fail: before the oldest are dropped they agree
with the entries that are dropped from (`agrees_evict`), so after each result that is kept they
agree with the cache again (`agrees_insert`). -/
namespace Screens

/-- The values but that of a key. -/
def Keyed.erase {α : Type} (m : Keyed α) (key : String) : Keyed α :=
  ⟨m.entries.filter (·.1 != key), Entries.sorted_filter _ m.sorted⟩

/-- An ending within the bounds that every other one is an ending of. -/
structure ResultCache.LongestFitting (capacity : Nat)
    (entries ending : List (String × FetchResult)) : Prop where
  suffix : ending <:+ entries
  fits : Fits capacity ending
  longest : ∀ other, other <:+ entries → Fits capacity other → other <:+ ending

/-- Results under their URLs, the URLs in the order their results came, and the sum of the
sizes. -/
structure Books where
  results : Keyed FetchResult
  queue : List String
  bytes : Nat
  capacity : Nat

namespace Books

def empty (capacity : Nat) : Books := ⟨.empty, [], 0, capacity⟩

/-- Takes the bytes of a result off, if so many are there. -/
def without? (bytes : Nat) (result : FetchResult) : Option Nat :=
  if result.size ≤ bytes then some (bytes - result.size) else none

/-- Drops the URLs at the front of the queue, and their results, while there is too much. -/
def evict (capacity : Nat) (results : Keyed FetchResult) (bytes : Nat) :
    List String → Option Books
  | [] => some ⟨results, [], bytes, capacity⟩
  | oldest :: queue =>
    if capacity < bytes ∨ entryLimit < results.size then
      match results.get? oldest with
      | none => evict capacity results bytes queue
      | some evicted => do evict capacity (results.erase oldest) (← without? bytes evicted) queue
    else some ⟨results, oldest :: queue, bytes, capacity⟩

/-- Adds the bytes, puts the result in place of the one before, takes off the bytes of that
one and its place in the queue, and gets in line. -/
def insert (books : Books) (url : String) (result : FetchResult) : Option Books :=
  let added := books.bytes + result.size
  let results := books.results.insert url result
  match books.results.get? url with
  | none => evict books.capacity results added (books.queue ++ [url])
  | some before => do
    evict books.capacity results (← without? added before) (books.queue.filter (· != url) ++ [url])

def insertAll (books : Books) : List (String × FetchResult) → Option Books
  | [] => some books
  | (url, result) :: rest => do (← books.insert url result).insertAll rest

/-- The books are about the results that a cache keeps. -/
structure Agrees (books : Books) (cache : ResultCache) : Prop where
  results : books.results.entries.Perm cache.entries
  queue : books.queue = cache.order
  bytes : books.bytes = cache.bytes
  capacity : books.capacity = cache.capacity

/-- The books are right among themselves, and neither bound is passed. -/
structure Balanced (capacity : Nat) (books : Books) : Prop where
  distinct : books.queue.Nodup
  listed : ∀ url, url ∈ books.queue ↔ (books.results.get? url).isSome = true
  bytes : books.bytes = ResultCache.weight books.results.entries
  withinCapacity : books.bytes ≤ capacity
  withinLimit : books.results.size ≤ entryLimit

/-- What the books are owed to be, and to stay with one more result. -/
structure Right (capacity : Nat) (books : Books) (cache : ResultCache) : Prop where
  agrees : books.Agrees cache
  balanced : books.Balanced capacity
  /-- The result goes behind the others, and the longest ending within the bounds is left. -/
  next : ∀ url result, ∃ next, books.insert url result = some next ∧
    next.Agrees (cache.insert url result) ∧
    ResultCache.LongestFitting capacity (cache.others url ++ [(url, result)])
      (cache.insert url result).entries
  /-- If results have a largest size that there is room for, the latest is found. -/
  found : ∀ maxBytes, maxBytes ≤ capacity → ∀ url (result : FetchResult), result.size ≤ maxBytes →
    ∀ next, books.insert url result = some next → next.results.get? url = some result

end Books

namespace ResultCache

def insertAll (cache : ResultCache) : List (String × FetchResult) → ResultCache
  | [] => cache
  | (url, result) :: rest => (cache.insert url result).insertAll rest

theorem weight_perm {entries others : List (String × FetchResult)} (h : entries.Perm others) :
    weight entries = weight others := by
  induction h with
  | nil => rfl
  | cons e _ ih => rw [weight, weight, ih]
  | swap e f rest => exact Nat.add_left_comm _ _ _
  | trans _ _ ih ih' => exact ih.trans ih'

theorem longestFitting_insert {cache : ResultCache} (h : Kept cache) (url : String)
    (result : FetchResult) :
    LongestFitting cache.capacity (cache.others url ++ [(url, result)])
      (cache.insert url result).entries where
  suffix := insert_suffix cache url result
  fits := by
    have hfits := (kept_insert h url result).fits
    rwa [insert_capacity] at hfits
  longest _ hs hfits := insert_longest h hs hfits

theorem kept_insertAll {cache : ResultCache} (h : Kept cache)
    (inserts : List (String × FetchResult)) : Kept (cache.insertAll inserts) := by
  induction inserts generalizing cache with
  | nil => exact h
  | cons e rest ih => exact ih (kept_insert h e.1 e.2)

theorem insertAll_capacity (cache : ResultCache) (inserts : List (String × FetchResult)) :
    (cache.insertAll inserts).capacity = cache.capacity := by
  induction inserts generalizing cache with
  | nil => rfl
  | cons e rest ih => exact (ih _).trans (insert_capacity cache e.1 e.2)

end ResultCache

namespace Books

open ResultCache (weight weight_append weight_filter nodup_incoming)

variable {books : Books} {cache : ResultCache} {capacity : Nat}

theorem agrees_empty (capacity : Nat) : (empty capacity).Agrees (.empty capacity) :=
  ⟨.refl _, rfl, rfl, rfl⟩

theorem without?_add (result : FetchResult) (bytes : Nat) :
    without? (result.size + bytes) result = some bytes := by
  rw [without?, if_pos (Nat.le_add_right _ _), Nat.add_sub_cancel_left]

/-- As long as the three books agree with the same entries, dropping never fails, and they
agree with what is left. The induction is on the entries, so the queue and the results get
shorter with them. -/
theorem agrees_evict (capacity : Nat) {entries : List (String × FetchResult)}
    (hd : (entries.map (·.1)).Nodup) {results : Keyed FetchResult}
    (h : results.entries.Perm entries) :
    ∃ next, evict capacity results (weight entries) (entries.map (·.1)) = some next ∧
      next.Agrees (ResultCache.evict capacity entries (weight entries)) := by
  induction entries generalizing results with
  | nil => exact ⟨_, rfl, h, rfl, rfl, rfl⟩
  | cons e rest ih =>
    obtain ⟨url, result⟩ := e
    obtain ⟨hurl, hrest⟩ := List.nodup_cons.1 hd
    have hsize : results.size = rest.length + 1 := h.length_eq
    have hget : results.get? url = some result :=
      (Lookup.lookup_perm (Entries.nodup_keys results.sorted) h url).trans
        (Lookup.lookup_of_mem hd List.mem_cons_self)
    have herase : (results.erase url).entries.Perm rest := by
      have hfilter := h.filter (·.1 != url)
      rwa [List.filter_cons, if_neg (by simp), Lookup.filter_ne_eq_self hurl] at hfilter
    have hwithout : without? (weight ((url, result) :: rest)) result = some (weight rest) :=
      without?_add result (weight rest)
    rw [List.map_cons, evict, ResultCache.evict, hsize]
    split
    · have hweight : weight ((url, result) :: rest) - result.size = weight rest :=
        Nat.add_sub_cancel_left ..
      simp only [hget, hwithout, hweight, Option.bind_eq_bind, Option.bind_some]
      exact ih hrest herase
    · exact ⟨_, rfl, h, rfl, rfl, rfl⟩

theorem Agrees.get? (h : books.Agrees cache) (url : String) :
    books.results.get? url = cache.get? url :=
  Lookup.lookup_perm (Entries.nodup_keys books.results.sorted) h.results url

/-- The queue before the oldest are dropped. -/
theorem order_incoming (cache : ResultCache) (url : String) (result : FetchResult) :
    (cache.others url ++ [(url, result)]).map (·.1) = cache.order.filter (· != url) ++ [url] := by
  rw [List.map_append, ResultCache.order, List.filter_map]
  rfl

/-- Keeping one more result never fails, and the books agree again. -/
theorem agrees_insert (h : books.Agrees cache) (hk : cache.Kept) (url : String)
    (result : FetchResult) :
    ∃ next, books.insert url result = some next ∧ next.Agrees (cache.insert url result) := by
  have hresults : (books.results.insert url result).entries.Perm
      (cache.others url ++ [(url, result)]) :=
    (Entries.insert_perm url result books.results.sorted).trans
      (((h.results.filter _).cons _).trans (List.perm_append_singleton _ _).symm)
  obtain ⟨next, hnext, hagrees⟩ :=
    agrees_evict cache.capacity (nodup_incoming hk url result) hresults
  rw [← ResultCache.insert_eq hk] at hagrees
  refine ⟨next, ?_, hagrees⟩
  rw [← hnext, insert, h.get? url, h.queue, h.bytes, h.capacity, hk.bytes]
  have hsplit : weight cache.entries = weight (cache.others url) +
      ((cache.get? url).map FetchResult.size).getD 0 := weight_filter hk.distinct url
  cases hbefore : cache.get? url with
  | none =>
    have hothers : cache.others url = cache.entries :=
      Lookup.filter_ne_eq_self (Lookup.eq_none_iff_not_mem.1 hbefore)
    rw [hothers, weight_append, List.map_append]
    rfl
  | some before =>
    have hadded : weight cache.entries + result.size =
        before.size + weight (cache.others url ++ [(url, result)]) := by
      rw [hsplit, hbefore, weight_append]
      show weight (cache.others url) + before.size + result.size =
        before.size + (weight (cache.others url) + result.size)
      omega
    simp only [hadded, without?_add, order_incoming, Option.bind_eq_bind, Option.bind_some]

theorem agrees_insertAll (h : books.Agrees cache) (hk : cache.Kept)
    (inserts : List (String × FetchResult)) :
    ∃ after, books.insertAll inserts = some after ∧ after.Agrees (cache.insertAll inserts) := by
  induction inserts generalizing books cache with
  | nil => exact ⟨books, rfl, h⟩
  | cons e rest ih =>
    obtain ⟨next, hnext, hagrees⟩ := agrees_insert h hk e.1 e.2
    obtain ⟨after, hafter, hall⟩ := ih hagrees (ResultCache.kept_insert hk e.1 e.2)
    refine ⟨after, ?_, hall⟩
    rw [insertAll, hnext]
    exact hafter

/-- Books about a cache that is kept are right. -/
theorem Agrees.balanced (h : books.Agrees cache) (hk : cache.Kept) :
    books.Balanced cache.capacity where
  distinct := h.queue ▸ hk.distinct
  listed url := by
    rw [h.queue, h.get? url]
    exact Lookup.isSome_iff_mem.symm
  bytes := by rw [h.bytes, hk.bytes, ResultCache.weight_perm h.results]
  withinCapacity := by
    rw [h.bytes, hk.bytes]
    exact hk.fits.1
  withinLimit := Nat.le_trans (Nat.le_of_eq h.results.length_eq) hk.fits.2

theorem Agrees.right (h : books.Agrees cache) (hk : cache.Kept) :
    books.Right cache.capacity cache where
  agrees := h
  balanced := h.balanced hk
  next url result := by
    obtain ⟨next, hnext, hagrees⟩ := agrees_insert h hk url result
    exact ⟨next, hnext, hagrees, ResultCache.longestFitting_insert hk url result⟩
  found maxBytes hroom url result hsize next hnext := by
    obtain ⟨same, hsame, hagrees⟩ := agrees_insert h hk url result
    rw [hnext] at hsame
    cases hsame
    rw [hagrees.get? url, ResultCache.get?_insert_self hk, if_pos (Nat.le_trans hsize hroom)]

end Books

/-- A service that starts has room for every resource that it accepts. -/
theorem Config.maxBytes_le_cacheBytes {c valid : Config} (h : c.validated = .ok valid) :
    valid.resources.maxBytes.toNat ≤ valid.resources.cacheBytes.toNat := by
  refine UInt64.le_iff_toNat_le.1 (UInt64.not_lt.1 fun hsmall => ?_)
  have hfault := fault?_of_validated h
  rw [fault?, if_pos hsmall] at hfault
  -- Whatever fault is found first, there is one.
  repeat' split at hfault
  all_goals cases hfault

/-- **The books are kept, and no more is dropped than has to be.** Whatever results are kept
one after the other, nothing is taken off the bytes that is not on them, the queue lists the
URLs with a result once each, the bytes are the sum of the sizes, and neither bound is passed;
one more result drops as few of the oldest as it can. A configuration that a service starts with
has room for every resource that it accepts, so that the latest is found. -/
theorem ResultCache.insertAll_keeps_books (capacity : Nat)
    (inserts : List (String × FetchResult)) :
    (∃ books, (Books.empty capacity).insertAll inserts = some books ∧
      books.Right capacity ((empty capacity).insertAll inserts)) ∧
    ∀ c valid, Config.validated c = .ok valid →
      valid.resources.maxBytes.toNat ≤ valid.resources.cacheBytes.toNat := by
  refine ⟨?_, fun _ _ => Config.maxBytes_le_cacheBytes⟩
  obtain ⟨books, hbooks, hagrees⟩ :=
    Books.agrees_insertAll (Books.agrees_empty capacity) (kept_empty capacity) inserts
  have hright := hagrees.right (kept_insertAll (kept_empty capacity) inserts)
  rw [insertAll_capacity] at hright
  exact ⟨books, hbooks, hright⟩

/-- A result comes again, smaller, and one failed; with the last there are six bytes. -/
def deliveries : List (String × FetchResult) :=
  [("a", .loaded [1, 2, 3]), ("b", .loaded [4, 5]), ("a", .loaded [6]), ("c", .failed "gone" 1),
    ("d", .loaded [7, 8, 9])]

/-- With room for five bytes the oldest goes, and one and three are left. -/
theorem deliveries_kept :
    ∃ books, (Books.empty 5).insertAll deliveries = some books ∧
      books.Right 5 ((ResultCache.empty 5).insertAll deliveries) ∧
      books.queue = ["a", "c", "d"] ∧ books.bytes = 1 + 0 + 3 ∧
      books.results.get? "b" = none ∧ books.results.get? "d" = some (.loaded [7, 8, 9]) := by
  obtain ⟨books, hbooks, hright⟩ := (ResultCache.insertAll_keeps_books 5 deliveries).1
  have hkept : ((Books.empty 5).insertAll deliveries).map (fun books =>
      (books.queue, books.bytes, books.results.get? "b", books.results.get? "d")) =
      some (["a", "c", "d"], 4, none, some (.loaded [7, 8, 9])) := by decide +kernel
  rw [hbooks] at hkept
  obtain ⟨hqueue, hkept⟩ := Prod.mk.inj (Option.some.inj hkept)
  obtain ⟨hbytes, hkept⟩ := Prod.mk.inj hkept
  obtain ⟨hgone, hlatest⟩ := Prod.mk.inj hkept
  exact ⟨books, hbooks, hright, hqueue, hbytes, hgone, hlatest⟩

end Screens
