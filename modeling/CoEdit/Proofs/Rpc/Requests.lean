import CoEdit.Proofs.Json.Canonical
import CoEdit.Proofs.Json.RoundTrip
import CoEdit.Proofs.Rpc.Parameters

/-!
# Lines That Are Requests

A value gives a request by its keys if it is an object, and in order if it is an array. The text of
a value is read as the request that the value gives, as long as its numbers are whole and fit a word
of 64 bits. A larger number is read as a double.

## Main definitions

* `Request.GivenBy`: the request that a value gives.
* `givenId?`: the id that a line gives.
* `Request.Legible`: values that the reader takes whole.

## Main results

* `Request.decode_eq_ok_iff`: a request is read from the values that give it.
* `Request.id_of_parse?`: a request has the id that its line gives, unless this is null.
* `Request.parse?_render`: what the text of a legible value is read as.
* `Request.parse?_largeId`: what becomes of an id that is no word.
-/

namespace CoEdit

/-- A value, unless it is null. -/
def Json.nonNull? : Json → Option Json
  | .null => none
  | j => some j

namespace Rpc

open CoEdit.Json (lookup)
open CoEdit.Decode

theorem eq_ok_of_toOption {α ε : Type} {x : Except ε α} {a : α} (h : x.toOption = some a) :
    x = .ok a := by
  cases x with
  | error => cases h
  | ok => exact congrArg _ (Option.some.inj h)

theorem anything_eq (source : Source) (j : Json) : anything source j = .ok j.nonNull? := by
  cases j <;> rfl

namespace Request

variable {p : Json} {fields : List (String × Json)} {items : List Json} {r : Request}

/-- A part of a request that may be any value, that may be null, and that an object may lack. -/
def Freely (p : Json) (index : Nat) (key : String) (x : Option Json) : Prop :=
  x = (param? p index key).bind Json.nonNull? ∧
    (param? p index key = none → ∃ fields, p = .object fields)

/-- The request that a value gives: by its keys if it is an object, in order if it is an array. -/
structure GivenBy (r : Request) (p : Json) : Prop where
  shape : Within p 4
  version : param? p 0 "jsonrpc" = some (.text r.version)
  id : Freely p 1 "id" r.id
  method : param? p 2 "method" = some (.text r.method)
  params : Freely p 3 "params" r.params

theorem at_anything {key : String} {i : Nat} {x : Option Json} :
    (Record.optional key anything).At p i x ↔ Freely p i key x := by
  simp only [Record.optional, Record.at_field, anything_eq, Except.ok.injEq, Freely]
  cases param? p i key with
  | none => simp [eq_comm, and_comm]
  | some j => simp [eq_comm]

/-- **A request is read** from the values that give it. -/
theorem decode_eq_ok_iff : decode .direct p = .ok r ↔ r.GivenBy p := by
  simp only [decode, record, Record.decode_eq_ok_iff, Record.at_seq, Record.at_map, at_text,
    at_anything]
  constructor
  · rintro ⟨hp, _, params, ⟨_, method, ⟨_, id, ⟨version, h₀, rfl⟩, h₁, rfl⟩, h₂, rfl⟩, h₃, rfl⟩
    exact ⟨hp, h₀, h₁, h₂, h₃⟩
  · rintro ⟨hp, h₀, h₁, h₂, h₃⟩
    exact ⟨hp, _, r.params, ⟨_, r.method, ⟨_, r.id, ⟨r.version, h₀, rfl⟩, h₁, rfl⟩, h₂, rfl⟩, h₃,
      rfl⟩

end Request

/-- The id that a line gives, be it null: under its key, or as the second item. -/
def givenId? (line : String) : Option Json :=
  match Json.parseTop Request.keys line with
  | some (.inl j) => param? j 1 "id"
  | some (.inr fields) => lookup "id" fields
  | none => none

/-- The id that a line gives is in canonical form. -/
theorem canonical_givenId? {line : String} {id : Json} (h : givenId? line = some id) :
    id.Canonical := by
  rw [givenId?] at h
  cases hread : Json.parseTop Request.keys line with
  | none =>
    rw [hread] at h
    cases h
  | some read =>
    have hcanonical := Json.canonical_of_parseTop hread
    rw [hread] at h
    cases read with
    | inl j =>
      cases j with
      | object fields => exact hcanonical.of_lookup h
      | array items => exact hcanonical.of_getElem? h
      | _ => cases h
    | inr fields => exact hcanonical _ (Table.mem_of_lookup h)

namespace Request

variable {line : String} {r : Request} {j : Json} {fields : List (String × Json)}

/-- **A request has the id that its line gives**, unless this is null. -/
theorem id_of_parse? (h : parse? line = some r) :
    r.id = (givenId? line).bind Json.nonNull? := by
  rw [parse?] at h
  rw [givenId?]
  cases hread : Json.parseTop keys line with
  | none =>
    rw [hread] at h
    cases h
  | some read =>
    rw [hread] at h
    dsimp only at h
    cases read with
    | inl j => exact (decode_eq_ok_iff.mp (eq_ok_of_toOption h)).id.1
    | inr fields =>
      dsimp only at h
      split at h
      · have hkey : keys.contains "id" = true := by decide
        have hid := (decode_eq_ok_iff.mp (eq_ok_of_toOption h)).id.1
        rwa [param?, Json.lookup_filter (keys.contains ·), if_pos hkey] at hid
      · cases h

/-- A value that the reader takes whole: its numbers are whole and fit a word of 64 bits, with or
without a sign, it nests within the limit of the reader, and if it is an object, its keys are those
of requests, each of them once. -/
structure Legible (j : Json) : Prop where
  plain : Json.Plain Json.depthLimit j
  keys : ∀ fields, j = .object fields → ∀ entry ∈ fields, entry.1 ∈ keys
  nodup : ∀ fields, j = .object fields → (fields.map Prod.fst).Nodup

/-- The order of the entries of an object does not matter. -/
theorem param?_sorted (hnodup : (fields.map Prod.fst).Nodup) (index : Nat) (key : String) :
    param? (Json.object fields).sorted index key =
      param? (.object (Json.sortedFields fields)) index key := by
  have hkeys : ((Json.sortedFields fields).map Prod.fst).Nodup := by
    rwa [Json.map_fst_sortedFields]
  rw [Json.sorted, param?, param?, Json.lookup_sortEntries, Json.lookup_reverse hkeys]

theorem givenBy_sorted (hnodup : (fields.map Prod.fst).Nodup) :
    r.GivenBy (Json.object fields).sorted ↔ r.GivenBy (.object (Json.sortedFields fields)) := by
  have hparam := param?_sorted hnodup
  have hfreely : ∀ {index key x}, Freely (Json.object fields).sorted index key x ↔
      Freely (.object (Json.sortedFields fields)) index key x := fun {index key x} => by
    rw [Freely, Freely, hparam, Json.sorted]
    simp
  constructor
  · rintro ⟨-, hversion, hid, hmethod, hparams⟩
    exact ⟨trivial, hparam _ _ ▸ hversion, hfreely.mp hid, hparam _ _ ▸ hmethod,
      hfreely.mp hparams⟩
  · rintro ⟨-, hversion, hid, hmethod, hparams⟩
    exact ⟨trivial, (hparam _ _).trans hversion, hfreely.mpr hid, (hparam _ _).trans hmethod,
      hfreely.mpr hparams⟩

theorem toOption_eq_some_iff {α ε : Type} {x : Except ε α} {a : α} :
    x.toOption = some a ↔ x = .ok a := by
  cases x <;> simp [Except.toOption]

/-- **The text of a legible value is read as the request that the value gives**, if it gives one,
and the line gives the id that the value gives. -/
theorem parse?_render (h : Legible j) :
    (∀ r, parse? j.render = some r ↔ r.GivenBy j.sorted) ∧
      givenId? j.render = param? j.sorted 1 "id" := by
  by_cases hobject : ∃ fields, j = .object fields
  · obtain ⟨fields, rfl⟩ := hobject
    have hnodup := h.nodup fields rfl
    have hread := Json.parseTop_render (h.keys fields rfl) (Json.plain_object.mp h.plain)
    have hall : (Json.sortedFields fields).filter (fun field => keys.contains field.1) =
        Json.sortedFields fields := by
      rw [List.filter_eq_self]
      intro entry hentry
      have hkey : entry.1 ∈ fields.map Prod.fst := by
        rw [← Json.map_fst_sortedFields]
        exact List.mem_map_of_mem hentry
      obtain ⟨other, hother, heq⟩ := List.mem_map.mp hkey
      rw [← heq]
      simpa using h.keys fields rfl other hother
    have hkeys : ((Json.sortedFields fields).map Prod.fst).Nodup := by
      rwa [Json.map_fst_sortedFields]
    refine ⟨fun r => ?_, ?_⟩
    · rw [parse?, hread, givenBy_sorted hnodup]
      dsimp only
      rw [hall, if_pos hkeys, toOption_eq_some_iff, decode_eq_ok_iff]
    · rw [givenId?, hread, param?_sorted hnodup]
      rfl
  · have hread := Json.parseTop_render_of_ne_object keys
      (fun fields hj => hobject ⟨fields, hj⟩) h.plain
    refine ⟨fun r => ?_, ?_⟩
    · rw [parse?, hread]
      dsimp only
      rw [toOption_eq_some_iff, decode_eq_ok_iff]
    · rw [givenId?, hread]

/-! ### Large ids -/

/-- A ping with an id that is more than a word. -/
def pingWith (id : Nat) : Json :=
  .object [("jsonrpc", .text "2.0"), ("id", .nat id), ("method", .text "ping")]

/-- Such a ping is no request, or one whose id is a double. -/
theorem parse?_largeId {id : Nat} (h : Decimal.wordMax < id) :
    parse? (pingWith id).render = none ∨
      ∃ bits, parse? (pingWith id).render = some ⟨"2.0", some (.double bits), "ping", none⟩ := by
  have hread : Json.parseTop keys (pingWith id).render = none ∨
      ∃ bits, Json.parseTop keys (pingWith id).render = some (.inr
        [("jsonrpc", .text "2.0"), ("id", .double bits), ("method", .text "ping")]) := by
    obtain ⟨fuel, hfuel, hlong⟩ : ∃ fuel, Json.fuelFor (Json.entryChars ("jsonrpc", .text "2.0") ++
        Json.fieldsChars [("id", .nat id), ("method", .text "ping")]) =
        fuel + 1 + 1 + 1 ∧ 6 ≤ fuel := by
      have hlength : (Json.entryChars ("jsonrpc", .text "2.0")).length = 15 := rfl
      rw [Json.fuelFor, List.length_append, hlength]
      generalize (Json.fieldsChars _).length = more
      exact ⟨29 + 2 * more, by omega, by omega⟩
    have hshort : (Json.text "2.0").chars.length ≤ fuel + 1 + 1 :=
      Nat.le_trans (by decide : _ ≤ 6) (Nat.le_add_right_of_le (Nat.le_add_right_of_le hlong))
    have hversion : ∀ rest, Json.entries (keys.contains ·) true (fuel + 1 + 1 + 1)
        (Json.depthLimit - 1) [] (Json.entryChars ("jsonrpc", .text "2.0") ++ ',' :: rest) =
        Json.entries (keys.contains ·) true (fuel + 1 + 1) (Json.depthLimit - 1)
          [("jsonrpc", .text "2.0")] rest :=
      Json.entries_next _ (by decide) (Json.readsBack_text "2.0") hshort
    have hmethod : ∀ seen, Json.entries (keys.contains ·) true (fuel + 1) (Json.depthLimit - 1) seen
        (Json.entryChars ("method", .text "ping") ++ ['\x7d']) =
        some ((("method", .text "ping") :: seen).reverse, []) := fun seen =>
      Json.entries_last _ (by decide) (Json.readsBack_text "ping") hlong []
    have hid := @Json.value_nat_of_lt _ (Json.depthLimit - 1) fuel _ h
      (Json.endsNumber_cons (c := ',') (by decide)
        (Json.entryChars ("method", .text "ping") ++ ['\x7d']))
    rw [pingWith, Json.parseTop_object, hfuel, Json.fieldsChars_cons, hversion, Json.entryChars,
      List.append_assoc, List.cons_append, Json.fieldsChars_cons]
    dsimp only [Json.fieldsChars]
    rcases hid with hnone | ⟨bits, hsome⟩
    · rw [Json.entries_stop _ (by decide) hnone]
      exact .inl rfl
    · rw [Json.entries_step _ (by decide) hsome, hmethod]
      exact .inr ⟨bits, rfl⟩
  rcases hread with hread | ⟨bits, hread⟩
  · rw [parse?, hread]
    exact .inl rfl
  · rw [parse?, hread]
    exact .inr ⟨bits, rfl⟩

end Request

end Rpc

end CoEdit
