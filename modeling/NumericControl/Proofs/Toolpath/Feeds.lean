import NumericControl.Job.Basic
import NumericControl.Proofs.Execution.Emission
import NumericControl.Proofs.Modes.Follower
import NumericControl.Proofs.Toolpath.Moves

/-!
# The feeds of recorded moves

A feed is kept as it was programmed and converted to millimetres when a move is recorded, in the
units that are in force then.  Tokens that select units or the feed mode or that set the feed stand
before the move of their line, so at a move they are as after its line.  The feed that a move
promises is the one in millimetres of the line that programmed it.  It is recorded unless units
changed since then or the feed mode is inverse time.

## Main definitions

* `FeedSetting` : units, feed mode and feed of a replay.
* `ProgrammedFeed` : a programmed feed with the units in force after its line.
* `Program.moveFeeds` : what the lines of a program say of the feeds of its moves.
* `MoveFeed.recorded`, `MoveFeed.promised` : the feed of a move in two ways.

## Main results

* `Course.feeds_eq` : moves of a line are recorded with the setting after the line.
* `Execution.foldl_after_of_run` : the setting after a block is that of the interpreter.
* `Course.KeepsFeed.readLine` : a line takes the setting of a replay along with the interpreter.
* `buildToolpath_feeds` : the feeds that the toolpath of a program records, and when they are those
  that its moves promise.
-/

namespace NumericControl

/-! ### Settings -/

/-- What counts for the feed of a move. -/
structure FeedSetting where
  units : Units
  mode : FeedMode
  /-- The last feed as it was programmed. -/
  feed : Option Float

namespace FeedSetting

variable {setting : FeedSetting} {t : Token}

/-- The feed in force in millimetres, under its feed mode. -/
def recorded (s : FeedSetting) : FeedMode × Option Float :=
  (s.mode,
    match s.mode, s.units with
    | .inverseTime, _ | _, .metric => s.feed
    | _, .imperial => s.feed.map (· * 25.4))

/-- The setting after a token. -/
def after (s : FeedSetting) (t : Token) : FeedSetting :=
  match t.body with
  | .units units => { s with units }
  | .feed value => { s with feed := some value }
  | .plain =>
    match Course.feedModeOf? t.command with
    | some mode => { s with mode }
    | none => s
  | _ => s

theorem feed_after (setting : FeedSetting) (t : Token) :
    (setting.after t).feed = (Job.feedOf? t).or setting.feed := by
  obtain ⟨command, line, body⟩ := t
  cases body with
  | plain =>
    unfold after
    dsimp only
    split <;> rfl
  | _ => rfl

/-- The feed after tokens is the last one that they set. -/
theorem feed_foldl_after (setting : FeedSetting) (tokens : List Token) :
    (tokens.foldl after setting).feed =
      ((tokens.filterMap Job.feedOf?).getLast?).or setting.feed := by
  induction tokens generalizing setting with
  | nil => rfl
  | cons t tokens ih =>
    rw [List.foldl_cons, ih, feed_after, List.filterMap_cons]
    cases Job.feedOf? t with
    | none => rfl
    | some value =>
      rw [List.getLast?_cons]
      cases (tokens.filterMap Job.feedOf?).getLast? <;> rfl

/-- Units and feed mode after a token are those that the token tells. -/
theorem after_follow {s : State} (hunits : setting.units = s.units)
    (hmode : setting.mode = s.feedMode) :
    (setting.after t).units = (s.follow t).units ∧
      (setting.after t).mode = (s.follow t).feedMode := by
  obtain ⟨command, line, body⟩ := t
  cases body with
  | plain => cases command <;> exact ⟨hunits, by first | exact hmode | rfl⟩
  | units => exact ⟨rfl, hmode⟩
  | _ => exact ⟨hunits, hmode⟩

theorem foldl_after_follow (tokens : List Token) {s : State} (hunits : setting.units = s.units)
    (hmode : setting.mode = s.feedMode) :
    (tokens.foldl after setting).units = (tokens.foldl State.follow s).units ∧
      (tokens.foldl after setting).mode = (tokens.foldl State.follow s).feedMode := by
  induction tokens generalizing setting s with
  | nil => exact ⟨hunits, hmode⟩
  | cons t tokens ih =>
    obtain ⟨hunits', hmode'⟩ := after_follow (t := t) hunits hmode
    exact ih hunits' hmode'

end FeedSetting

/-! ### The order of a line -/

/-- Whether a token can change the setting. -/
def Token.isFeedSetting (t : Token) : Bool :=
  match t.body with
  | .units _ | .feed _ => true
  | .plain => (Course.feedModeOf? t.command).isSome
  | _ => false

theorem FeedSetting.after_of_not_isFeedSetting {t : Token} (h : t.isFeedSetting = false)
    (setting : FeedSetting) : setting.after t = setting := by
  obtain ⟨command, line, body⟩ := t
  cases body with
  | plain =>
    have hnone : Course.feedModeOf? command = none := by simpa [Token.isFeedSetting] using h
    simp only [after, hnone]
  | units | feed => cases h
  | _ => rfl

theorem FeedSetting.foldl_after_of_not_isFeedSetting {tokens : List Token}
    (h : ∀ t ∈ tokens, t.isFeedSetting = false) (setting : FeedSetting) :
    tokens.foldl after setting = setting := by
  induction tokens with
  | nil => rfl
  | cons t tokens ih =>
    rw [List.foldl_cons, after_of_not_isFeedSetting (h t List.mem_cons_self)]
    exact ih fun u hu => h u (List.mem_cons_of_mem t hu)

/-- A move sets nothing. -/
theorem Token.isFeedSetting_of_isMove {t : Token} (h : t.isMove = true) :
    t.isFeedSetting = false := by
  obtain ⟨command, line, body⟩ := t
  cases body with
  | plain | units | feed => cases h
  | _ => rfl

namespace Execution

variable {ex : Execution} {stage : Stage} {t : Token} {tokens : List Token} {next : State}
  {tools : List Int}

/-- The setting is emitted up to the stage of the units. -/
theorem Emits.rank_le_of_isFeedSetting (h : ex.Emits stage t) (ht : t.isFeedSetting = true) :
    stage.rank ≤ Stage.units.rank := by
  cases h with
  | move moves =>
    obtain ⟨mode, htoken⟩ := exists_isMoveToken moves
    cases htoken <;> cases ht
  | feedMode | feed | units => decide
  | spindleSpeedMode | override => decide
  | path | retract | flow =>
    rename_i mode _
    cases mode <;> cases ht
  | @coordinateSystem slot =>
    revert ht
    change (Course.feedModeOf? (coordinateSystemCommand slot)).isSome = true → _
    unfold coordinateSystemCommand
    split <;> exact nofun
  | _ => cases ht

/-- Moves are emitted behind the stage of the units. -/
theorem Emits.rank_lt_of_isMove (h : ex.Emits stage t) (ht : t.isMove = true) :
    Stage.units.rank < stage.rank := by
  cases h with
  | move | goFirst | goSecond | machine => decide
  | _ => cases ht

/-- No token of a block changes the setting behind a move. -/
theorem pairwise_isFeedSetting (h : ex.run = .ok (tokens, next, tools)) :
    tokens.Pairwise fun t u => t.isMove = true → u.isFeedSetting = false := by
  have hranks := Stage.pairwise_rank_order.sublist (map_stage_run h)
  rw [List.pairwise_map] at hranks
  refine hranks.imp_of_mem fun {t u} ht hu hlt hmove => ?_
  have hafter := (emits_of_run h t ht).rank_lt_of_isMove hmove
  by_contra hsetting
  have hbefore := (emits_of_run h u hu).rank_le_of_isFeedSetting (by simpa using hsetting)
  omega

/-- The feed that a block sets is that of its F word. -/
theorem getLast?_feedOf?_of_run (h : ex.run = .ok (tokens, next, tools)) :
    (tokens.filterMap Job.feedOf?).getLast? = ex.word? 'F' := by
  have hword : ∀ value ∈ tokens.filterMap Job.feedOf?, ex.word? 'F' = some value := by
    intro value hvalue
    obtain ⟨t, ht, hfeed⟩ := List.mem_filterMap.mp hvalue
    have hemits := emits_of_run h t ht
    generalize t.command.stage = stage at hemits
    cases hemits with
    | feed word =>
      cases hfeed
      exact word
    | move moves =>
      obtain ⟨mode, htoken⟩ := exists_isMoveToken moves
      cases htoken <;> cases hfeed
    | _ => cases hfeed
  cases hlast : (tokens.filterMap Job.feedOf?).getLast? with
  | some value => exact (hword value (List.mem_of_getLast? hlast)).symm
  | none =>
    cases hF : ex.word? 'F' with
    | none => rfl
    | some value =>
      have hstage : ex.feedStage = .ok (some (ex.token .feedrate (.feed value))) := by
        rw [feedStage, hF]
        rfl
      have hmem := mem_of_run h (by simp [stages]) hstage
      rw [List.getLast?_eq_none_iff, List.filterMap_eq_nil_iff] at hlast
      cases hlast _ hmem

/-- A block leads the setting to units and feed mode after it, with the feed of its F word. -/
theorem foldl_after_of_run (hslot : ∀ slot ∈ ex.coordinateSystem?, slot ≤ 8)
    (h : ex.run = .ok (tokens, next, tools)) {setting : FeedSetting}
    (hunits : setting.units = ex.state.units) (hmode : setting.mode = ex.state.feedMode) :
    tokens.foldl FeedSetting.after setting =
      ⟨next.units, next.feedMode, (ex.word? 'F').or setting.feed⟩ := by
  have hmodes := sameModes_foldl_follow hslot h (.refl ex.state)
  obtain ⟨hunits', hmode'⟩ := FeedSetting.foldl_after_follow tokens hunits hmode
  have hfeed := FeedSetting.feed_foldl_after setting tokens
  rw [getLast?_feedOf?_of_run h] at hfeed
  rw [← hmodes.units, ← hmodes.feedMode, ← hunits', ← hmode', ← hfeed]

end Execution

/-! ### Replays -/

/-- The feed mode and the feed of a recorded move. -/
def Move.modeAndFeed (m : Move) : FeedMode × Option Float :=
  (m.feedMode, m.feed)

namespace Course

variable {c : Course} {t : Token} {tokens : List Token}

/-- What counts for the feed of the next move. -/
def feedSetting (c : Course) : FeedSetting :=
  ⟨c.units, c.feedMode, c.feed⟩

/-- The feeds in force at the moves that are recorded. -/
def feeds (c : Course) (tokens : List Token) : List (FeedMode × Option Float) :=
  (c.visits tokens).map fun visit => visit.1.feedSetting.recorded

theorem feedSetting_after (c : Course) (t : Token) :
    (c.after t).feedSetting = c.feedSetting.after t := by
  obtain ⟨command, line, body⟩ := t
  cases body with
  | coordinates target slot =>
    unfold after
    dsimp only
    split <;> rfl
  | plain =>
    cases hmode : feedModeOf? command with
    | none => simp only [after, FeedSetting.after, hmode]
    | some mode =>
      simp only [after, FeedSetting.after, hmode]
      rfl
  | _ => rfl

theorem feedSetting_foldl_after (c : Course) (tokens : List Token) :
    (tokens.foldl after c).feedSetting = tokens.foldl FeedSetting.after c.feedSetting := by
  induction tokens generalizing c with
  | nil => rfl
  | cons t tokens ih => rw [List.foldl_cons, ih, feedSetting_after, List.foldl_cons]

theorem modeAndFeed_eq (c : Course) : (c.feedMode, c.feedInForce) = c.feedSetting.recorded := by
  unfold feedInForce feedSetting FeedSetting.recorded
  cases c.feedMode <;> cases c.units <;> rfl

theorem feeds_append (c : Course) (front back : List Token) :
    c.feeds (front ++ back) = c.feeds front ++ (front.foldl after c).feeds back := by
  rw [feeds, visits_append, List.map_append]
  rfl

/-- Where nothing is set behind a move, moves are recorded with the setting after all tokens. -/
theorem feeds_eq (horder : tokens.Pairwise fun t u => t.isMove = true → u.isFeedSetting = false)
    (hresolves : c.ResolvesAll tokens) :
    c.feeds tokens = (tokens.filter Token.isMove).map fun _ =>
      (tokens.foldl FeedSetting.after c.feedSetting).recorded := by
  induction tokens generalizing c with
  | nil => rfl
  | cons t tokens ih =>
    obtain ⟨hfirst, hrest⟩ := List.pairwise_cons.mp horder
    have htail := ih hrest hresolves.2
    rw [feedSetting_after] at htail
    rw [feeds, visits, List.map_append, List.foldl_cons]
    cases hmove : t.isMove with
    | false =>
      rw [records_eq_false hmove, List.filter_cons_of_neg (by simp [hmove])]
      exact htail
    | true =>
      -- the rest of the line leaves the setting of the move as it is
      rw [FeedSetting.after_of_not_isFeedSetting (Token.isFeedSetting_of_isMove hmove)] at htail ⊢
      rw [FeedSetting.foldl_after_of_not_isFeedSetting fun u hu => hfirst u hu hmove] at htail ⊢
      rw [records_of_resolves hmove hresolves.1, List.filter_cons_of_pos hmove]
      exact congrArg (c.feedSetting.recorded :: ·) htail

/-- Drawings are recorded with the feeds in force at their moves. -/
theorem map_modeAndFeed_of_isAt {visits : List (Course × Token)} {ds : List Drawing}
    (h : List.Forall₂ (fun visit d => d.IsAt visit.1 visit.2) visits ds) :
    ds.map (fun d => d.move.modeAndFeed) =
      visits.map fun visit => visit.1.feedSetting.recorded := by
  induction h with
  | nil => rfl
  | cons hplace _ ih =>
    rw [List.map_cons, List.map_cons, ih, ← modeAndFeed_eq, Move.modeAndFeed, hplace.feedMode,
      hplace.feed]

end Course

/-! ### Programs -/

/-- A programmed feed with the units in force at the end of its line. -/
structure ProgrammedFeed where
  value : Float
  units : Units
deriving DecidableEq

/-- The feed in millimetres. -/
def ProgrammedFeed.millimetres (f : ProgrammedFeed) : Float :=
  match f.units with
  | .imperial => f.value * 25.4
  | .metric => f.value

/-- The feed of a move: feed mode and units in force after its line, and the last feed programmed
up to it. -/
structure MoveFeed where
  mode : FeedMode
  units : Units
  feed : Option ProgrammedFeed
deriving DecidableEq

/-- The feed as it is recorded: in the units in force at the move. -/
def MoveFeed.recorded (m : MoveFeed) : FeedMode × Option Float :=
  FeedSetting.recorded ⟨m.units, m.mode, m.feed.map ProgrammedFeed.value⟩

/-- The feed as it was programmed: in the units in force when it was. -/
def MoveFeed.promised (m : MoveFeed) : FeedMode × Option Float :=
  (m.mode, m.feed.map ProgrammedFeed.millimetres)

/-- In feed modes with a unit of length the recorded feed is the programmed one exactly if the
units are the same at both lines, or if the factor makes no difference. -/
theorem MoveFeed.recorded_eq_promised_iff {m : MoveFeed} (hmode : m.mode ≠ .inverseTime) :
    m.recorded = m.promised ↔ ∀ f ∈ m.feed, f.units = m.units ∨ f.value * 25.4 = f.value := by
  obtain ⟨mode, units, feed⟩ := m
  unfold recorded promised FeedSetting.recorded
  cases feed with
  | none => cases mode <;> cases units <;> simp
  | some f =>
    obtain ⟨value, units'⟩ := f
    cases mode with
    | inverseTime => exact absurd rfl hmode
    | perMinute | perRevolution =>
      cases units <;> cases units' <;> simp [ProgrammedFeed.millimetres, eq_comm]

namespace Program

/-- The value of the F word of a line, if the line is executed and has one. -/
def feedWord? (setup : Setup) (s : State) (text : String) : Option Float :=
  if s.programEnd then none
  else (Line.read text).toOption.bind fun line =>
    (executionOf setup.config setup.operator s line).toOption.bind (·.word? 'F')

/-- What the lines of a program say of the feeds of its moves, one for each token that is a move, up
to the first line that is refused. -/
def moveFeeds (setup : Setup) (p : Program) (feed : Option ProgrammedFeed) :
    List String → List MoveFeed
  | [] => []
  | text :: rest =>
    match p.readLine setup text with
    | .ok (q, _) =>
      let feed := ((feedWord? setup p.state text).map (⟨·, q.state.units⟩)).or feed
      ((q.tokens.toList.drop p.tokens.size).filter Token.isMove).map
          (fun _ => ⟨q.state.feedMode, q.state.units, feed⟩) ++
        moveFeeds setup q feed rest
    | .error _ => []

variable {setup : Setup} {p q : Program} {text : String} {handled : Bool}

/-- A line without words has no F word. -/
theorem feedWord?_of_words_eq_nil {line : Line} (hread : Line.read text = .ok line)
    (hwords : line.words = []) (s : State) : feedWord? setup s text = none := by
  unfold feedWord?
  split
  · rfl
  · rw [hread, Except.toOption, Option.bind_some]
    cases hex : executionOf setup.config setup.operator s line with
    | error failure => rfl
    | ok ex =>
      cases hvalue : ex.word? 'F' with
      | none => exact hvalue
      | some value =>
        obtain ⟨w, hw, -⟩ := exists_word_of_word? hex hvalue
        rw [hwords] at hw
        cases hw

/-- What a line does to units, feed mode and feed: without tokens nothing, and otherwise what its
block says. -/
theorem readLine_feed_cases (h : p.readLine setup text = .ok (q, handled)) :
    (q.tokens = p.tokens ∧ q.state.units = p.state.units ∧ q.state.feedMode = p.state.feedMode ∧
        feedWord? setup p.state text = none) ∨
      ∃ line ex tokens tools,
        executionOf setup.config setup.operator p.state line = .ok ex ∧
          ex.run = .ok (tokens, q.state, tools) ∧ q.tokens.toList = p.tokens.toList ++ tokens ∧
          feedWord? setup p.state text = ex.word? 'F' := by
  rcases readLine_eq_ok_iff.mp h with ⟨hend, rfl, -⟩ | ⟨-, line, result, hread, hresult, rfl, -⟩
  · exact .inl ⟨rfl, rfl, rfl, if_pos hend⟩
  · have hnone (hitems : line.content.items = []) : feedWord? setup p.state text = none :=
      feedWord?_of_words_eq_nil hread (by rw [Line.words, hitems]; rfl) p.state
    cases interpret_eq_ok_iff.mp hresult with
    | ended hend => exact .inl ⟨by simp [accept], rfl, rfl, if_pos hend⟩
    | passedOver _ hcontent =>
      refine .inl ⟨by simp [accept], rfl, rfl, hnone ?_⟩
      rcases hcontent with hcontent | hcontent <;> rw [hcontent] <;> rfl
    | comment _ hcontent | demarcation _ hcontent =>
      exact .inl ⟨by simp [accept], rfl, rfl, hnone (by rw [hcontent]; rfl)⟩
    | block hend _ hex hrun =>
      refine .inr ⟨line, _, _, _, hex, hrun, by simp [accept], ?_⟩
      simp [feedWord?, hend, hread, hex, Except.toOption]

/-- The tokens of a line lead the setting to units and feed mode after the line, with the feed of
its F word, and none of them changes it behind a move. -/
theorem foldl_after_of_readLine (h : p.readLine setup text = .ok (q, handled))
    {tokens : List Token} (htokens : q.tokens.toList = p.tokens.toList ++ tokens)
    {setting : FeedSetting} (hunits : setting.units = p.state.units)
    (hmode : setting.mode = p.state.feedMode) :
    (tokens.foldl FeedSetting.after setting =
        ⟨q.state.units, q.state.feedMode, (feedWord? setup p.state text).or setting.feed⟩) ∧
      tokens.Pairwise fun t u => t.isMove = true → u.isFeedSetting = false := by
  rcases readLine_feed_cases h with ⟨hsame, hunits', hmode', hword⟩ |
    ⟨line, ex, tokens', tools, hex, hrun, htokens', hword⟩
  · rw [hsame, List.self_eq_append_right] at htokens
    rw [htokens, hunits', hmode', hword, ← hunits, ← hmode]
    exact ⟨rfl, .nil⟩
  · rw [htokens', List.append_cancel_left_eq] at htokens
    rw [← htokens, hword]
    rw [← state_of_executionOf hex] at hunits hmode
    exact ⟨Execution.foldl_after_of_run (slot_le_of_executionOf hex) hrun hunits hmode,
      Execution.pairwise_isFeedSetting hrun⟩

end Program

namespace Course

variable {c : Course} {setup : Setup} {p q : Program} {text : String} {handled : Bool}
  {feed : Option ProgrammedFeed}

/-- A course that is where the interpreter is, in its units and feed mode, with a feed. -/
structure KeepsFeed (c : Course) (s : State) (feed : Option ProgrammedFeed) : Prop where
  follows : c.Follows s
  setting : c.feedSetting = ⟨s.units, s.feedMode, feed.map ProgrammedFeed.value⟩

/-- A line takes the course along, and its moves are recorded with units and feed mode after the
line and the last feed programmed up to it. -/
theorem KeepsFeed.readLine (hc : c.KeepsFeed p.state feed)
    (h : p.readLine setup text = .ok (q, handled)) :
    let tokens := q.tokens.toList.drop p.tokens.size
    let feed' :=
      ((Program.feedWord? setup p.state text).map (⟨·, q.state.units⟩)).or feed
    (tokens.foldl after c).KeepsFeed q.state feed' ∧
      c.feeds tokens = ((tokens.filter Token.isMove).map fun _ =>
        (⟨q.state.feedMode, q.state.units, feed'⟩ : MoveFeed)).map MoveFeed.recorded := by
  obtain ⟨tokens', htokens, hlawful⟩ := Program.readLine_eq_ok h
  intro tokens feed'
  obtain rfl : tokens = tokens' := by
    simp only [tokens, htokens, ← Array.length_toList, List.drop_left]
  obtain ⟨hfollows, -, hresolves⟩ := foldl_after_passage hlawful hc.follows
  obtain ⟨hsetting, horder⟩ := Program.foldl_after_of_readLine h htokens
    (congrArg FeedSetting.units hc.setting) (congrArg FeedSetting.mode hc.setting)
  have hfeed : (Program.feedWord? setup p.state text).or c.feedSetting.feed =
      feed'.map ProgrammedFeed.value := by
    rw [hc.setting]
    simp only [feed']
    cases Program.feedWord? setup p.state text <;> rfl
  rw [hfeed] at hsetting
  refine ⟨⟨hfollows, (feedSetting_foldl_after c tokens).trans hsetting⟩, ?_⟩
  rw [feeds_eq horder hresolves, hsetting, List.map_map]
  rfl

/-- The feeds of the moves of a whole program. -/
theorem feeds_passages (hc : c.KeepsFeed p.state feed) (lines : List String) :
    c.feeds ((p.passages setup lines).flatMap Passage.tokens) =
      (p.moveFeeds setup feed lines).map MoveFeed.recorded := by
  induction lines generalizing p c feed with
  | nil => rfl
  | cons text rest ih =>
    cases h : p.readLine setup text with
    | error failure =>
      simp only [Program.passages, Program.moveFeeds, h]
      rfl
    | ok result =>
      obtain ⟨q, handled⟩ := result
      obtain ⟨hkeeps, hfeeds⟩ := hc.readLine h
      simp only [Program.passages, Program.moveFeeds, h, List.flatMap_cons, feeds_append,
        List.map_append]
      rw [ih hkeeps, hfeeds]

end Course

/-- The toolpath of a program records a feed mode and a feed for every move: the last feed that was
programmed, in the units in force after the line of the move, and as it is in inverse time.  In the
other feed modes this is the feed in the units in force when it was programmed if and only if the
units are the same at both lines, or the factor of an inch makes no difference.  There is no
toolpath if there is no double for the number of chords and the program has an arc. -/
theorem buildToolpath_feeds (setup : Setup) (lines : List String) {resolution : Int}
    {keepRunning : Nat → Bool} (hresolution : 1 ≤ resolution) (hkeep : ∀ i, keepRunning i = true) :
    let tokens := (Program.empty.readLines setup 0 lines).1.tokens.toList
    let moves := Program.empty.moveFeeds setup none lines
    (IsCuttable resolution tokens →
        ∃ path, buildToolpath tokens resolution keepRunning = .ok (some path) ∧
          path.moves.toList.map Move.modeAndFeed = moves.map MoveFeed.recorded) ∧
      (¬ IsCuttable resolution tokens →
        buildToolpath tokens resolution keepRunning = .error .tooLarge) ∧
      ∀ m ∈ moves, m.mode ≠ .inverseTime →
        (m.recorded = m.promised ↔ ∀ f ∈ m.feed, f.units = m.units ∨ f.value * 25.4 = f.value) := by
  intro tokens moves
  have htokens : tokens = (Program.empty.passages setup lines).flatMap Passage.tokens :=
    Program.tokens_readLines setup Program.empty 0 lines
  have hcut_iff := isCuttable_recorded_readLines setup lines resolution
  refine ⟨fun hcut => ?_, fun hbeyond =>
    buildToolpath_eq_error hresolution hkeep (mt hcut_iff.mp hbeyond),
    fun m _ hmode => MoveFeed.recorded_eq_promised_iff hmode⟩
  obtain ⟨ds, hbuild, -, hplaces⟩ :=
    exists_buildToolpath_eq hresolution hkeep (hcut_iff.mpr hcut)
  have hstart : Course.KeepsFeed {} Program.empty.state none := ⟨⟨rfl, rfl⟩, rfl⟩
  have hfeeds : Course.feeds {} ((Program.empty.passages setup lines).flatMap Passage.tokens) =
      moves.map MoveFeed.recorded := Course.feeds_passages hstart lines
  rw [← htokens] at hfeeds
  refine ⟨_, hbuild, ?_⟩
  rw [(Toolpath.foldl_draw {} ds).2.1, ← hfeeds]
  exact (List.map_map ..).trans (Course.map_modeAndFeed_of_isAt hplaces)

/-- A program with feeds in inches, in inverse time and in millimetres. -/
def mixedFeeds : List String :=
  ["G1 X1 F10 G20", "X2 G21 F50", "G93 X3 F2", "G94 G20 X4"]

theorem buildToolpath_mixedFeeds :
    (Program.empty.readLines {} 0 mixedFeeds).2.2 = none ∧ (1 : Int) ≤ 4 ∧
      IsCuttable 4 (Program.empty.readLines {} 0 mixedFeeds).1.tokens.toList ∧
      (∃ path, buildToolpath (Program.empty.readLines {} 0 mixedFeeds).1.tokens.toList 4
          (fun _ => true) = .ok (some path) ∧
        path.moves.toList.map Move.modeAndFeed =
          [(.perMinute, some 254.0), (.perMinute, some 50.0), (.inverseTime, some 2.0),
            (.perMinute, some 50.8)]) ∧
      ∀ m ∈ Program.empty.moveFeeds {} none mixedFeeds, m.mode ≠ .inverseTime →
        (m.recorded = m.promised ↔
          ∀ f ∈ m.feed, f.units = m.units ∨ f.value * 25.4 = f.value) := by
  have hread : (Program.empty.readLines {} 0 mixedFeeds).2.2 = none :=
    Option.isNone_iff_eq_none.mp (by decide +kernel)
  have hfeeds : (Program.empty.moveFeeds {} none mixedFeeds).map MoveFeed.recorded =
      [(.perMinute, some 254.0), (.perMinute, some 50.0), (.inverseTime, some 2.0),
        (.perMinute, some 50.8)] := by
    decide +kernel
  have hcut : IsCuttable 4 (Program.empty.readLines {} 0 mixedFeeds).1.tokens.toList :=
    .inl (Int.ofNat_lt.mpr (show 4 < Number.wholeLimit by decide +kernel))
  obtain ⟨hbuild, -, hpromised⟩ :=
    buildToolpath_feeds {} mixedFeeds (show (1 : Int) ≤ 4 by decide) (fun _ => rfl)
  obtain ⟨path, hpath, hmoves⟩ := hbuild hcut
  exact ⟨hread, by decide, hcut, ⟨path, hpath, hmoves.trans hfeeds⟩, hpromised⟩

/-- A program that programs a feed in millimetres and selects inches before the second move. -/
def unitsChanged : List String :=
  ["G1 X1 F100", "G20", "G1 X2"]

/-- The feed of the second move was programmed in millimetres, and it is recorded as if it were in
inches. -/
theorem recorded_ne_promised_unitsChanged :
    (Program.empty.readLines {} 0 unitsChanged).2.2 = none ∧
      (∃ path, buildToolpath (Program.empty.readLines {} 0 unitsChanged).1.tokens.toList 4
          (fun _ => true) = .ok (some path) ∧
        path.moves.toList.map Move.modeAndFeed =
          [(.perMinute, some 100.0), (.perMinute, some 2540.0)]) ∧
      (Program.empty.moveFeeds {} none unitsChanged).map MoveFeed.promised =
        [(.perMinute, some 100.0), (.perMinute, some 100.0)] := by
  have hmoves : (buildToolpath (Program.empty.readLines {} 0 unitsChanged).1.tokens.toList 4
      (fun _ => true)).toOption.join.map (fun path => path.moves.toList.map Move.modeAndFeed) =
        some [(.perMinute, some 100.0), (.perMinute, some 2540.0)] := by
    decide +kernel
  obtain ⟨path, hpath, hrecorded⟩ := Option.map_eq_some_iff.mp hmoves
  have hbuild := toOption_eq_some_iff.mp (Option.join_eq_some_iff.mp hpath)
  exact ⟨Option.isNone_iff_eq_none.mp (by decide +kernel), ⟨path, hbuild, hrecorded⟩,
    by decide +kernel⟩

end NumericControl
