/-
This file holds whole runs of a random model, with any requests and any draws in
any order. The request that needs the next word of the master stream gets the
next one, whatever was drawn before. A generator that was handed out gives one
stream to all who hold it, which depends on its word and on what they draw, and
on nothing else. So runs in which the same requests need a word hand out the
same seeds and the same streams.
-/
import LiveFleet.Proofs.Random.Supply

namespace LiveFleet

namespace Supply

variable {Kind Value : Type} [DecidableEq Kind] {supply : Supply Kind}
  {uses : List (Use Kind Value)}

/-! ### The kinds that have been asked for -/

theorem kinds_suffix_use (supply : Supply Kind) (one : Use Kind Value) :
    supply.model.kinds <:+ (supply.use one).model.kinds := by
  cases one with
  | draw hold draw => rw [kinds_draw]
  | ask request =>
    by_cases repeats : request.Repeats supply.model.kinds
    · rw [use, ask_of_repeats repeats]
    · rw [use, kinds_ask repeats]
      exact List.suffix_append _ _

theorem kinds_suffix_after (supply : Supply Kind) (uses : List (Use Kind Value)) :
    supply.model.kinds <:+ (supply.after uses).model.kinds := by
  induction uses generalizing supply with
  | nil => exact List.suffix_refl _
  | cons one uses later => exact (supply.kinds_suffix_use one).trans (later (supply.use one))

theorem nodup_kinds_use (distinct : supply.model.kinds.Nodup) (one : Use Kind Value) :
    (supply.use one).model.kinds.Nodup := by
  cases one with
  | draw hold draw => rwa [kinds_draw]
  | ask request =>
    by_cases repeats : request.Repeats supply.model.kinds
    · rwa [use, ask_of_repeats repeats]
    · rw [use, kinds_ask repeats]
      cases request with
      | share kind => exact List.nodup_cons.mpr ⟨repeats, distinct⟩
      | seed => exact distinct
      | newGenerator => exact distinct

theorem nodup_kinds_after (distinct : supply.model.kinds.Nodup) (uses : List (Use Kind Value)) :
    (supply.after uses).model.kinds.Nodup := by
  induction uses generalizing supply with
  | nil => exact distinct
  | cons one uses later => exact later (nodup_kinds_use distinct one)

theorem mem_kinds_ask {request : Request Kind} {kind : Kind} :
    kind ∈ (supply.ask request).model.kinds ↔
      kind ∈ supply.model.kinds ∨ request.kind? = some kind := by
  by_cases repeats : request.Repeats supply.model.kinds
  · rw [ask_of_repeats repeats]
    refine (or_iff_left_of_imp fun same => ?_).symm
    cases request with
    | share kind =>
      cases same
      exact repeats
    | seed => cases same
    | newGenerator => cases same
  · rw [kinds_ask repeats, List.mem_append, Option.mem_toList, or_comm]

theorem mem_kinds_after {kind : Kind} :
    kind ∈ (supply.after uses).model.kinds ↔ kind ∈ supply.model.kinds ∨ kind ∈ asked uses := by
  induction uses generalizing supply with
  | nil => simp [after, asked, requests]
  | cons one uses later =>
    rw [after_cons, later]
    cases one with
    | draw hold draw =>
      rw [kinds_draw]
      rfl
    | ask request =>
      rw [use, mem_kinds_ask, or_assoc]
      refine or_congr_right ?_
      cases request <;> simp [asked, requests, Use.request?, Request.kind?, eq_comm]

/-! ### The words that are taken -/

/-- The requests that need a word of the master stream. -/
def needs (uses : List (Use Kind Value)) : List (Request Kind) := firsts [] (requests uses)

example : needs ([.ask (.share 'a'), .draw (.shared 0) Generator.next, .ask .seed, .ask (.share 'a'),
    .ask .newGenerator] : List (Use Char UInt64)) = [.share 'a', .seed, .newGenerator] := by
  rfl

theorem master_after (supply : Supply Kind) (uses : List (Use Kind Value)) :
    (supply.after uses).model.master =
      supply.model.master.skip (firsts supply.model.kinds (requests uses)).length := by
  induction uses generalizing supply with
  | nil => rfl
  | cons one uses later =>
    rw [after_cons, later]
    cases one with
    | draw hold draw =>
      rw [kinds_draw, master_draw]
      rfl
    | ask request =>
      have split : requests (.ask request :: uses) = request :: requests uses := rfl
      rw [split, firsts]
      by_cases repeats : request.Repeats supply.model.kinds
      · rw [if_pos repeats, use, ask_of_repeats repeats]
      · rw [if_neg repeats, use, master_ask repeats, kinds_ask repeats]
        rfl

/-! ### The streams of generators -/

/-- A generator gives one stream to all who hold it, and nothing but their draws moves it on. -/
theorem generator?_after (distinct : supply.model.kinds.Nodup) {hold : Hold} {generator : Generator}
    (there : supply.generator? hold = some generator) (uses : List (Use Kind Value)) :
    (supply.after uses).generator? hold = some (generator.play (drawsFrom hold uses)) := by
  induction uses generalizing supply generator with
  | nil => exact there
  | cons one uses later =>
    have distinct_still := nodup_kinds_use distinct one
    rw [after_cons]
    cases one with
    | ask request => exact later distinct_still (generator?_ask there)
    | draw other made =>
      have split : drawsFrom hold (.draw other made :: uses) =
          if other = hold then made :: drawsFrom hold uses else drawsFrom hold uses := by
        rw [drawsFrom, List.filterMap_cons, Use.drawFrom?]
        split <;> simp_all [drawsFrom]
      rw [later distinct_still (generator?_draw distinct there), split]
      split <;> rfl

/-! ### Handles -/

theorem handout_share_of_suffix {later : Supply Kind} {kind : Kind}
    (kept : supply.model.kinds <:+ later.model.kinds) (asked : kind ∈ supply.model.kinds) :
    later.handout (.share kind) = supply.handout (.share kind) := by
  rw [handout, handout, RandomModel.share_of_mem asked, RandomModel.share_of_mem (kept.subset asked),
    RandomModel.placeOf_of_suffix kept asked]

/-- To ask for a kind hands out the same handle at once and ever after. -/
theorem handout_share_ask (supply : Supply Kind) (kind : Kind) :
    (supply.ask (.share kind)).handout (.share kind) = supply.handout (.share kind) := by
  rw [handout, handout, ask, RandomModel.share_of_mem (supply.model.mem_kinds_share kind)]

theorem share_stays (supply : Supply Kind) (kind : Kind) (later : List (Use Kind Value)) :
    kind ∈ ((supply.ask (.share kind)).after later).model.kinds ∧
      ((supply.ask (.share kind)).after later).handout (.share kind) =
        supply.handout (.share kind) := by
  have kept := (supply.ask (.share kind)).kinds_suffix_after later
  have asked : kind ∈ (supply.ask (.share kind)).model.kinds := supply.model.mem_kinds_share kind
  refine ⟨kept.subset asked, ?_⟩
  rw [handout_share_of_suffix kept asked, handout_share_ask]

theorem handout_share_inj {kind other : Kind} (asked : kind ∈ supply.model.kinds)
    (same : supply.handout (.share kind) = supply.handout (.share other)) : kind = other := by
  rw [handout, handout, RandomModel.share_of_mem asked] at same
  have places : supply.model.placeOf kind = (supply.model.share other).placeOf other := by
    simpa only [Handout.generator.injEq, Hold.shared.injEq] using same
  rw [← RandomModel.placeOf_of_suffix (supply.model.kinds_suffix_share other) asked] at places
  exact RandomModel.placeOf_inj ((supply.model.kinds_suffix_share other).subset asked) places

/-! ### Two runs -/

/-- What a request hands out, with the stream as it is then. -/
def issue (supply : Supply Kind) (request : Request Kind) : Handout × Option Generator :=
  match supply.handout request with
  | .seed word => (.seed word, none)
  | .generator hold => (.generator hold, (supply.ask request).generator? hold)

/-- All that a run hands out, in order. To ask again for a generator that is shared hands out
nothing new. -/
def issues (supply : Supply Kind) : List (Use Kind Value) → List (Handout × Option Generator)
  | [] => []
  | .draw hold draw :: uses => (supply.use (.draw hold draw)).issues uses
  | .ask request :: uses =>
    if request.Repeats supply.model.kinds then (supply.ask request).issues uses
    else supply.issue request :: (supply.ask request).issues uses

/-- The supplies answer all requests alike. Their streams may differ. -/
structure Alike (one other : Supply Kind) : Prop where
  master : one.model.master = other.model.master
  kinds : one.model.kinds = other.model.kinds
  own : one.own.length = other.own.length

namespace Alike

variable {one other : Supply Kind} {request : Request Kind}

theorem draw (supply : Supply Kind) (hold : Hold) (made : Generator.Draw Value) :
    (supply.use (.draw hold made)).Alike supply where
  master := supply.master_draw hold made
  kinds := supply.kinds_draw hold made
  own := by
    unfold use
    simp only
    split
    · cases hold with
      | own number => exact List.length_set
      | shared place => rfl
    · rfl

theorem ask (alike : one.Alike other) : (one.ask request).Alike (other.ask request) := by
  by_cases repeats : request.Repeats one.model.kinds
  · rwa [ask_of_repeats repeats, ask_of_repeats (alike.kinds ▸ repeats)]
  · have new : ¬ request.Repeats other.model.kinds := alike.kinds ▸ repeats
    exact
      { master := by rw [master_ask repeats, master_ask new, alike.master]
        kinds := by rw [kinds_ask repeats, kinds_ask new, alike.kinds]
        own := by
          cases request with
          | newGenerator => simp [Supply.ask, alike.own]
          | seed => exact alike.own
          | share kind => exact alike.own }

theorem handout (alike : one.Alike other) : one.handout request = other.handout request := by
  cases request with
  | seed => simp only [Supply.handout, RandomModel.seed, alike.master]
  | newGenerator => simp only [Supply.handout, alike.own]
  | share kind =>
    simp only [Supply.handout, RandomModel.placeOf, RandomModel.kinds_share, alike.kinds]

theorem issue (alike : one.Alike other) (new : ¬ request.Repeats one.model.kinds) :
    one.issue request = other.issue request := by
  have issued := issues_next new
  have new_other : ¬ request.Repeats other.model.kinds := alike.kinds ▸ new
  have issued_other := issues_next new_other
  unfold Issues at issued issued_other
  unfold Supply.issue
  rw [← alike.handout] at issued_other ⊢
  split
  · rfl
  next hold handed =>
    simp only [handed] at issued issued_other
    rw [issued.2, issued_other.2, alike.master]

end Alike

/-- A run hands out what the requests that need a word hand out by themselves. -/
theorem issues_eq {one other : Supply Kind} (alike : one.Alike other) :
    one.issues uses = other.issues
      ((firsts one.model.kinds (requests uses)).map (Use.ask : _ → Use Kind Value)) := by
  induction uses generalizing one other with
  | nil => rfl
  | cons first uses later =>
    cases first with
    | draw hold made =>
      have drawn := Alike.draw one hold made
      rw [issues, later ⟨drawn.master.trans alike.master, drawn.kinds.trans alike.kinds,
        drawn.own.trans alike.own⟩, drawn.kinds]
      rfl
    | ask request =>
      have split : requests (.ask request :: uses) = request :: requests uses := rfl
      rw [split, firsts, issues]
      by_cases repeats : request.Repeats one.model.kinds
      · rw [if_pos repeats, if_pos repeats, ask_of_repeats repeats, later alike]
      · have new : ¬ request.Repeats other.model.kinds := alike.kinds ▸ repeats
        rw [if_neg repeats, if_neg repeats, List.map_cons, issues, if_neg new, alike.issue repeats,
          later alike.ask, kinds_ask repeats]

/-! ### The law -/

/-- A word of the master stream. -/
def masterWord (seed index : Nat) : UInt64 := (Generator.ofSeed (UInt64.ofNat seed)).nth index

/-- The supply of a run with the given seed, after some uses. -/
def run (seed : Nat) (uses : List (Use Kind Value)) : Supply Kind := (ofSeed seed).after uses

theorem run_ask (seed : Nat) (before later : List (Use Kind Value)) (request : Request Kind) :
    (run seed (before ++ .ask request :: later) : Supply Kind) =
      ((run seed before).ask request).after later :=
  after_append (ofSeed seed) before (.ask request :: later)

theorem mem_kinds_run {seed : Nat} {kind : Kind} :
    kind ∈ (run seed uses : Supply Kind).model.kinds ↔ kind ∈ asked uses :=
  mem_kinds_after.trans (or_iff_right List.not_mem_nil)

theorem nodup_kinds_run (seed : Nat) (uses : List (Use Kind Value)) :
    (run seed uses : Supply Kind).model.kinds.Nodup :=
  nodup_kinds_after (show (ofSeed seed : Supply Kind).model.kinds.Nodup from List.nodup_nil) uses

theorem repeats_run {seed : Nat} {request : Request Kind} :
    request.Repeats (run seed uses : Supply Kind).model.kinds ↔ request.Repeats (asked uses) := by
  cases request with
  | share kind => exact mem_kinds_run
  | seed => exact Iff.rfl
  | newGenerator => exact Iff.rfl

theorem master_run (seed : Nat) (uses : List (Use Kind Value)) :
    (run seed uses : Supply Kind).model.master.next.1 = masterWord seed (needs uses).length := by
  rw [run, master_after]
  exact Generator.next_skip _ _

theorem issues_run (seed : Nat) {request : Request Kind} (new : ¬ request.Repeats (asked uses)) :
    (run seed uses : Supply Kind).Issues request (masterWord seed (needs uses).length) := by
  rw [← master_run]
  exact issues_next (mt repeats_run.mp new)

/-- The stream of a generator that was handed out after some uses, behind all that was drawn from it
later: it began with the word of its request. -/
def streamOf (seed : Nat) (before : List (Use Kind Value)) (hold : Hold)
    (later : List (Use Kind Value)) : Generator :=
  (Generator.ofSeed (masterWord seed (needs before).length)).play (drawsFrom hold later)

/-- What can be said of a run after some uses, and of what is done next. -/
structure FollowsRequests (seed : Nat) (uses : List (Use Kind Value)) : Prop where
  /-- A request that needs a word gets the one with its number among these requests. -/
  takes : ∀ request : Request Kind, ¬ request.Repeats (asked uses) →
    (run seed uses).Issues request (masterWord seed (needs uses).length)
  /-- To ask again for a shared generator changes nothing and hands out the same handle. -/
  repeats : ∀ kind before later, uses = before ++ .ask (.share kind) :: later →
    (run seed uses).ask (.share kind) = run seed uses ∧
      (run seed uses).handout (.share kind) = (run seed before).handout (.share kind)
  /-- Handles of different kinds differ. -/
  apart : ∀ kind other before later, kind ≠ other → uses = before ++ .ask (.share kind) :: later →
    (run seed uses).handout (.share other) ≠ (run seed before).handout (.share kind)
  /-- A generator that was handed out gives the single stream of its word to all who draw from it,
  and only their draws move it on. -/
  flows : ∀ request hold before later, uses = before ++ .ask request :: later →
    ¬ request.Repeats (asked before) → (run seed before).handout request = .generator hold →
    (run seed uses).generator? hold = some (streamOf seed before hold later) ∧
      ∀ draw : Generator.Draw Value,
        (run seed uses).value? hold draw = some (draw (streamOf seed before hold later)).1
  /-- What was handed out so far follows from the requests that needed a word. -/
  reproduces : ∀ others : List (Use Kind Value), needs others = needs uses →
    (ofSeed seed : Supply Kind).issues others = (ofSeed seed).issues uses

/-- However requests and draws are mixed, the requests that need a word take the words of the master
stream in their order; to ask for a kind again changes nothing; kinds do not share streams; and each
stream belongs to its word and to the draws that are made from it. -/
theorem followsRequests_run (seed : Nat) (uses : List (Use Kind Value)) :
    FollowsRequests seed uses where
  takes _ new := issues_run seed new
  repeats kind before later split := by
    obtain ⟨known, kept⟩ := (run seed before).share_stays kind later
    rw [split, run_ask]
    exact ⟨ask_of_repeats known, kept⟩
  apart kind other before later differ split same := by
    obtain ⟨known, kept⟩ := (run seed before).share_stays kind later
    rw [split, run_ask, ← kept] at same
    exact differ (handout_share_inj known same.symm)
  flows request hold before later split new handed := by
    have issued := issues_run seed new
    simp only [Issues, handed] at issued
    have distinct : ((run seed before).ask request).model.kinds.Nodup :=
      nodup_kinds_use (nodup_kinds_run seed before) (.ask request : Use Kind Value)
    have stream := generator?_after distinct issued.2 later
    rw [split, run_ask]
    refine ⟨stream, fun draw => ?_⟩
    rw [value?, stream, Option.map_some]
    rfl
  reproduces others same := by
    have alike : (ofSeed seed : Supply Kind).Alike (ofSeed seed) := ⟨rfl, rfl, rfl⟩
    have bare (any : List (Use Kind Value)) :
        (ofSeed seed : Supply Kind).issues any = (ofSeed seed).issues ((needs any).map Use.ask) :=
      issues_eq alike
    rw [bare others, bare uses, same]

end Supply

end LiveFleet
