import LineCursor.Proofs.Cursor.EndMark
import LineCursor.Proofs.Cursor.Events

/-!
The end of a feed is final for a cursor.

At the end nothing that a caller does moves the cursor or reads, so it does not matter what the feed
would give: between the calls another script may be put under the cursor, as long as the feed says
the same of its end (`Feed.Keeps`).  All that a run of such calls (`Cursor.afterAmid`) leaves behind
is records:

    c.atEnd = .ok true → c.afterAmid calls = { c with feed, context := { c.context with journal } }

On a file the end is where the last line is empty.  Once the adapter has found it, a character is in
front of the cursor or the cursor is on the empty line (`Outline.Poised`), never behind the last
character of a line.
-/

namespace LineCursor

namespace Feed

/-- A change of what is behind a feed: it may give other lines then, but it says the same of its end
and has the same name. -/
def Keeps (change : Feed → Feed) : Prop :=
  ∀ g, (change g).ended = g.ended ∧ (change g).name = g.name

/-- A feed that is not read, whatever happens to it. -/
def changed (f : Feed) (changes : List (Feed → Feed)) : Feed :=
  changes.foldl (fun g change => change g) f

theorem changed_keeps (f : Feed) (changes : List (Feed → Feed))
    (h : ∀ change ∈ changes, Keeps change) :
    (f.changed changes).ended = f.ended ∧ (f.changed changes).name = f.name := by
  induction changes generalizing f with
  | nil => exact ⟨rfl, rfl⟩
  | cons change changes ih =>
    obtain ⟨hended, hname⟩ := h change List.mem_cons_self f
    obtain ⟨hended', hname'⟩ := ih (change f) fun c hc => h c (List.mem_cons_of_mem _ hc)
    exact ⟨hended'.trans hended, hname'.trans hname⟩

theorem keeps_close : Keeps close := by
  intro g
  cases g with
  | source s => exact ⟨rfl, rfl⟩
  | file f => exact ⟨rfl, rfl⟩

end Feed

/-! ## A cursor at the end -/

namespace Cursor

/-- A cursor after some calls, before each of which something happened to its feed. -/
def afterAmid (c : Cursor) (calls : List ((Feed → Feed) × Event)) : Cursor :=
  calls.foldl (fun c call => ((c.on (call.1 c.feed)).step call.2).2) c

/-- A cursor with other records. -/
def withJournal (c : Cursor) (journal : Log.Journal) : Cursor :=
  { c with context := { c.context with journal } }

theorem note_eq_withJournal (c : Cursor) (severity : Log.Severity) (message : String)
    (extra : Entries) (cause : Option (Option Fault)) :
    ∃ journal, c.note severity message extra cause = c.withJournal journal := by
  unfold note Context.note
  split
  · exact ⟨_, rfl⟩
  · exact ⟨c.context.journal, rfl⟩

section

variable {c : Cursor} (ha : c.atEnd = .ok true)

include ha

theorem length_of_atEnd : c.feed.ended.truthy = true ∧ c.buffer.length = .ok c.index := by
  unfold atEnd at ha
  split at ha
  · next hended =>
    cases hn : c.buffer.length with
    | error e =>
      rw [hn] at ha
      cases ha
    | ok n =>
      rw [hn] at ha
      have hi : (c.index == n) = true := Except.ok.inj ha
      rw [beq_iff_eq] at hi
      exact ⟨hended, by rw [hi]⟩
  · cases ha

theorem front_of_atEnd : c.front = (.error (.exhausted c.location),
    c.note .debug "Read past end of stream" [("position", .str c.location.text)]) := by
  rw [front, (length_of_atEnd ha).2]
  dsimp only
  rw [if_neg (Nat.lt_irrefl _)]

theorem endMark_of_atEnd : c.endMark = .ok (.bool true) := by
  rw [endMark, if_pos (length_of_atEnd ha).1, ha]
  rfl

/-- No call moves a cursor that is at the end. -/
theorem step_of_atEnd {e : Event} (he : ∀ ended, e ≠ .mark ended) :
    ∃ journal, (c.step e).2 = c.withJournal journal := by
  cases e with
  | look l =>
    cases l with
    | front =>
      show ∃ journal, c.front.2 = c.withJournal journal
      rw [front_of_atEnd ha]
      exact c.note_eq_withJournal _ _ _ _
    | location => exact ⟨c.context.journal, rfl⟩
    | atEnd => exact ⟨c.context.journal, rfl⟩
  | popFront =>
    show ∃ journal, c.popFront.2 = c.withJournal journal
    rw [popFront_of_atEnd ha]
    exact ⟨c.context.journal, rfl⟩
  | next =>
    show ∃ journal, c.next?.2 = c.withJournal journal
    rw [next?_of_atEnd ha]
    exact ⟨c.context.journal, rfl⟩
  | mark ended => exact absurd rfl (he ended)

end

theorem atEnd_of_same {c d : Cursor} (hended : d.feed.ended = c.feed.ended)
    (hbuffer : d.buffer = c.buffer) (hcolumn : d.column = c.column) : d.atEnd = c.atEnd := by
  unfold atEnd index
  rw [hended, hbuffer, hcolumn]

/-- A run of calls leaves nothing but records behind. -/
theorem afterAmid_of_atEnd {c : Cursor} (ha : c.atEnd = .ok true)
    {calls : List ((Feed → Feed) × Event)}
    (hk : ∀ call ∈ calls, Feed.Keeps call.1 ∧ ∀ ended, call.2 ≠ .mark ended) :
    ∃ journal, c.afterAmid calls =
      (c.on (c.feed.changed (calls.map (·.1)))).withJournal journal := by
  induction calls generalizing c with
  | nil => exact ⟨c.context.journal, rfl⟩
  | cons call calls ih =>
    obtain ⟨hkeeps, hcall⟩ := hk call List.mem_cons_self
    have hon : (c.on (call.1 c.feed)).atEnd = .ok true := by
      rw [← ha]
      exact atEnd_of_same (hkeeps c.feed).1 rfl rfl
    obtain ⟨journal, hstep⟩ := step_of_atEnd hon hcall
    have hd : ((c.on (call.1 c.feed)).withJournal journal).atEnd = .ok true := by
      rw [← hon]
      exact atEnd_of_same rfl rfl rfl
    obtain ⟨journal', hrest⟩ := ih hd fun x hx => hk x (List.mem_cons_of_mem _ hx)
    refine ⟨journal', ?_⟩
    rw [afterAmid, List.foldl_cons, hstep]
    exact hrest

end Cursor

/-! ## The end of a file -/

namespace Outline

/-- Once the feed has ended, a character is in front or the line is the empty one. -/
def Poised (o : Outline) : Prop :=
  o.feed.ended.truthy = true → o.index < o.buffer.size ∨ o.index = 0 ∧ o.buffer.size = 0

theorem Poised.atEnd_iff {o : Outline} (h : o.Poised) :
    o.atEnd = true ↔ o.feed.ended.truthy = true ∧ o.buffer.size = 0 := by
  rw [atEnd, Bool.and_eq_true, beq_iff_eq]
  constructor
  · rintro ⟨hended, hi⟩
    rcases h hended with hlt | ⟨-, h0⟩
    · omega
    · exact ⟨hended, h0⟩
  · rintro ⟨hended, h0⟩
    rcases h hended with hlt | ⟨hi, -⟩
    · omega
    · exact ⟨hended, by omega⟩

theorem Poised.index_eq_zero {o : Outline} (h : o.Poised) (ha : o.atEnd = true) : o.index = 0 := by
  rw [atEnd, Bool.and_eq_true, beq_iff_eq] at ha
  rcases h ha.1 with hlt | ⟨hi, -⟩
  · omega
  · exact hi

theorem poised_of_read {f : FileFeed} (hs : f.Sound) {l : Line} {g : Feed} (past : List Line)
    (hr : (Feed.file f).readLine = (.ok l, g)) : (⟨g, past, l, 0⟩ : Outline).Poised := by
  intro _
  rcases settled_of_read hs past hr with hlt | ha
  · exact .inl hlt
  · rw [atEnd, Bool.and_eq_true, beq_iff_eq] at ha
    exact .inr ⟨rfl, ha.2.symm⟩

theorem Poised.advance {o : Outline} (h : o.Poised) (hf : o.OnFile) : o.advance.2.Poised := by
  obtain ⟨f, hf, hs⟩ := hf
  rcases o.advance_cases with ⟨-, he⟩ | ⟨-, hi, he⟩ | ⟨e, g, -, -, hr, he⟩ | ⟨l, g, -, -, hr, he⟩
  · rw [he]
    exact h
  · rw [he]
    exact fun _ => .inl hi
  · rw [he]
    intro hended
    -- A read that fails leaves the end ahead, so here the index may lie beyond the line.
    rw [hf] at hr
    rw [Feed.ended_of_error hs hr] at hended
    cases hended
  · rw [he]
    rw [hf] at hr
    exact poised_of_read hs _ hr

theorem Poised.after {o : Outline} (h : o.Poised) (hf : o.OnFile) (events : List Event) :
    (o.after events).Poised ∧ (o.after events).OnFile := by
  refine after_induction (P := fun p => p.Poised ∧ p.OnFile) ?_ ?_ events ⟨h, hf⟩
  · rintro p ⟨hp, hpf⟩
    exact ⟨hp.advance hpf, hpf.advance⟩
  · rintro p ended ⟨hp, hpf⟩
    rw [hpf.marked_eq]
    exact ⟨hp, hpf⟩

end Outline

namespace Cursor

/-- A cursor that was opened on the adapter around a file, which may have been read before. -/
theorem Reached.poised {o : Offer} {f : FileFeed} {n : Nat} {d : Cursor}
    (ho : o.toFileFeed = .ok f) (h : Reached ((Feed.file f).after n) d) :
    ∃ p : Outline, d.Shows d.settings p ∧ p.buffer.IsPlain ∧ p.Poised ∧ p.OnFile := by
  obtain ⟨-, hn, -⟩ := Offer.of_toFileFeed ho
  obtain ⟨f', hf', hs⟩ := Feed.after_file n f (FileFeed.sound_of_not_ended hn)
  rw [hf'] at h
  obtain ⟨l, g, events, hr, hshows, hp⟩ := h.exists_outline (Feed.plain_file f' hs)
  have hfile : (⟨g, [], l, 0⟩ : Outline).OnFile := Feed.file_of_readLine hs hr
  obtain ⟨hpoised, honFile⟩ := (Outline.poised_of_read hs [] hr).after hfile events
  exact ⟨_, hshows, hp.buffer, hpoised, honFile⟩

/-- A cursor at the end stays there, whatever its caller does and whatever its feed would give
meanwhile, as long as that says the same of its end: place, line, tally and clock are as before, the
feed is not read, a move does nothing, there is no next character, and none in front at the same
place.  A cursor on a file, read before or not, is at the end exactly when the adapter has found the
end and the line is empty, and then its column is the first one. -/
theorem exhausted_for_good :
    (∀ (c : Cursor) (calls : List ((Feed → Feed) × Event)), c.atEnd = .ok true →
      (∀ call ∈ calls, Feed.Keeps call.1 ∧ ∀ ended, call.2 ≠ .mark ended) →
      let d := c.afterAmid calls
      (∃ journal, d =
        { c with
          feed := c.feed.changed (calls.map (·.1))
          context := { c.context with journal } }) ∧
      d.endMark = .ok (.bool true) ∧ d.popFront = (.ok (), d) ∧ d.next? = (.ok none, d) ∧
      d.front.1 = .error (.exhausted c.location)) ∧
    ∀ (o : Offer) (f : FileFeed) (n : Nat) (d : Cursor), o.toFileFeed = .ok f →
      Reached ((Feed.file f).after n) d →
      (d.atEnd = .ok true ↔ d.feed.ended = .bool true ∧ d.buffer.length = .ok 0) ∧
      (d.atEnd = .ok true → d.column = 1) := by
  refine ⟨fun c calls ha hk => ?_, fun o f n d ho h => ?_⟩
  · obtain ⟨journal, hd⟩ := afterAmid_of_atEnd ha hk
    obtain ⟨hended, hname⟩ := c.feed.changed_keeps (calls.map (·.1)) fun change hc => by
      obtain ⟨call, hcall, rfl⟩ := List.mem_map.1 hc
      exact (hk call hcall).1
    have hat : (c.afterAmid calls).atEnd = .ok true := by
      rw [hd, ← ha]
      exact atEnd_of_same hended rfl rfl
    have hlocation : (c.afterAmid calls).location = c.location := by
      rw [hd]
      exact location_on hname
    refine ⟨⟨journal, hd⟩, endMark_of_atEnd hat, popFront_of_atEnd hat, next?_of_atEnd hat, ?_⟩
    rw [front_of_atEnd hat, hlocation]
  · obtain ⟨p, hs, hp, hpoised, f', hf', -⟩ := h.poised ho
    have hended : d.feed.ended = .bool true ↔ p.feed.ended.truthy = true := by
      rw [hs.feed, hf', Feed.ended, Datum.bool.injEq]
      rfl
    rw [hs.atEnd_iff hp, hs.length_eq hp, hended, Except.ok.injEq]
    refine ⟨hpoised.atEnd_iff, fun ha => ?_⟩
    rw [hs.column, hpoised.index_eq_zero ha]

/-- A file that fails once and goes on behind its end. -/
def resuming : File where
  script := File.scriptOf
    #[.ok (.text #['a', '\n']), .error (.device "OSError" "busy"), .ok (.text #['b'])]
    (.ok (.text #['c']))

/-- The file goes on behind its last line, also after it was closed at the end; before that it has
failed behind the first line. -/
theorem exhausted_for_good_closed :
    (Offer.ofFile resuming .absent).toFileFeed = .ok { file := resuming } ∧
      ∃ d, Reached (.file { file := resuming }) d ∧ d.line = 3 ∧ d.atEnd = .ok true ∧
        d.buffer.length = .ok 0 ∧ d.column = 1 ∧
        (d.afterAmid [(id, .look .front), (Feed.close, .popFront), (id, .next)]).front.1 =
          .error (.exhausted d.location) := by
  have ho : (Offer.ofFile resuming .absent).toFileFeed = .ok { file := resuming } := rfl
  have hd := reached_of_start (.file { file := resuming }) {} {} rfl
    [.popFront, .popFront, .popFront, .next]
  have ha : ((Cursor.start (.file { file := resuming }) {} {}).2.after
      [.popFront, .popFront, .popFront, .next]).atEnd = .ok true := rfl
  have hk : ∀ call ∈ [((id : Feed → Feed), Event.look .front), (Feed.close, .popFront),
      (id, .next)], Feed.Keeps call.1 ∧ ∀ ended, call.2 ≠ .mark ended := by
    intro call hcall
    simp only [List.mem_cons, List.not_mem_nil, or_false] at hcall
    rcases hcall with rfl | rfl | rfl
    · exact ⟨fun _ => ⟨rfl, rfl⟩, nofun⟩
    · exact ⟨Feed.keeps_close, nofun⟩
    · exact ⟨fun _ => ⟨rfl, rfl⟩, nofun⟩
  obtain ⟨hstays, hfile⟩ := exhausted_for_good
  obtain ⟨-, -, -, -, hfront⟩ := hstays _ _ ha hk
  obtain ⟨hend, hcolumn⟩ := hfile _ _ 0 _ ho hd
  exact ⟨ho, _, hd, rfl, ha, (hend.1 ha).2, hcolumn ha, hfront⟩

end Cursor

end LineCursor
