import TabShell.Proofs.Script.Lines
import TabShell.Proofs.Session.Perform
/-!
# A script is its commands

What a script comes to are the commands on its lines, one after the other, up to the first that ends
it.  A line without a command leaves no more than an entry in the log, and only if it is no blank
line and no comment.

* `Seen`             what there is to see of a session;
* `command?`, `commands`   the command of a line, and those of some lines;
* `unread`           the lines that cannot be read, up to the end of a script;
* `Heeded`           what some lines of text make of a script;
* `run_commands`     a script against its commands, and what follows for scripts that differ.
-/

namespace TabShell

/-- what there is to see when commands have been heard: the state, what they printed, the address
with its history, and the events that arrived somewhere -/
structure Seen where
  state : State
  out : String
  fragment : String
  history : List String
  events : List Event
  deriving Repr, DecidableEq

namespace Session

def seen (s : Session) (out : String) (sink : Sink) : Seen :=
  ⟨s.state, out, s.location.fragment, s.location.history, sink.received (effects s.trace)⟩

def Outcome.seen (o : Outcome) (sink : Sink) : Seen := o.session.seen o.out sink

theorem received_hush (sink : Sink) (t : List (Happening Empty)) :
    sink.received (effects (hush t)) = sink.received (effects t) := by
  have hsent : sent (effects (hush t)) = sent (effects t) := by
    unfold sent effects hush
    rw [List.filterMap_filterMap, List.filterMap_filterMap, List.filterMap_filter]
    refine List.filterMap_congr fun x _ => ?_
    cases x with
    | effect e =>
      cases e with
      | note entry => split <;> rfl
      | send event => rfl
    | _ => rfl
  unfold Sink.received
  rw [hsent]

theorem seen_hushed (s : Session) (out : String) (sink : Sink) :
    s.hushed.seen out sink = s.seen out sink := by
  unfold seen
  rw [show s.hushed.trace = hush s.trace from rfl, received_hush]
  rfl

theorem skip?_start (c : Config) : ∀ x ∈ (start c).trace, x.skip? = none := by
  rw [(settled_start c).2.2]
  intro x hx
  rcases List.mem_append.mp hx with hx | hx
  · obtain ⟨entry, hentry, rfl⟩ := List.mem_map.mp hx
    obtain ⟨o, -, rfl⟩ := List.mem_map.mp hentry
    rfl
  · rw [List.mem_singleton.mp hx]
    rfl

theorem hushed_start (c : Config) : (start c).hushed = start c := by
  unfold hushed
  rw [hush_of_forall (skip?_start c)]

end Session

def ScriptRun.seen (r : ScriptRun) (sink : Sink) : Seen := r.session.seen r.out sink

namespace Script

open Text Session

/-- the command of a line, if it has one -/
def command? (line : List Char) : Option Command :=
  match Command.parseChars line with
  | .ok c => c
  | .error _ => none

/-- whether a line has a command -/
def speaks (line : List Char) : Bool := (command? line).isSome

def commands (lines : List (List Char)) : List Command := lines.filterMap command?

/-- of some lines, numbered from a given number on, those that cannot be read and come before the
first that ends a script, each with what is wrong with it -/
def unread (first : Nat) (lines : List (List Char)) : List (Nat × CommandError) :=
  ((lines.zipIdx first).takeWhile fun x => decide (command? x.1 ≠ some .quit)).filterMap fun x =>
    match Command.parseChars x.1 with
    | .ok _ => none
    | .error e => some (x.2, e)

/-! ## line by line -/

section
variable {line : List Char}

theorem command?_error {e : CommandError} (h : Command.parseChars line = .error e) :
    command? line = none := by
  unfold command?
  rw [h]

theorem command?_ok {c : Option Command} (h : Command.parseChars line = .ok c) :
    command? line = c := by
  unfold command?
  rw [h]

theorem unread_cons_error {e : CommandError} (h : Command.parseChars line = .error e) (n : Nat)
    (rest : List (List Char)) : unread n (line :: rest) = (n, e) :: unread (n + 1) rest := by
  unfold unread
  rw [List.zipIdx_cons, List.takeWhile_cons_of_pos (by simp [command?_error h]),
    List.filterMap_cons, h]

theorem unread_cons_ok {c : Option Command} (h : Command.parseChars line = .ok c)
    (hc : c ≠ some .quit) (n : Nat) (rest : List (List Char)) :
    unread n (line :: rest) = unread (n + 1) rest := by
  unfold unread
  rw [List.zipIdx_cons, List.takeWhile_cons_of_pos (by simpa [command?_ok h] using hc),
    List.filterMap_cons, h]

theorem unread_cons_quit (h : Command.parseChars line = .ok (some .quit)) (n : Nat)
    (rest : List (List Char)) : unread n (line :: rest) = [] := by
  unfold unread
  rw [List.zipIdx_cons, List.takeWhile_cons_of_neg (by simp [command?_ok h])]
  rfl

end

/-- what a script that is `r` has become, `t`, by lines of text that are numbered from `n` on -/
structure Heeded (r : ScriptRun) (n : Nat) (lines : List (List Char)) (t : ScriptRun) : Prop where
  failed : t.failed = r.failed
  session : t.session.hushed = (r.session.hushed.perform (commands lines)).session
  out : t.out = r.out ++ (r.session.hushed.perform (commands lines)).out
  skips : skips t.session.trace = skips r.session.trace ++ unread n lines
  err : t.err = r.err ++ String.join ((unread n lines).map fun x => report x.1 x.2)

namespace Heeded

variable {r t : ScriptRun} {n : Nat} {line : List Char} {lines : List (List Char)}

theorem nil (r : ScriptRun) (n : Nat) : Heeded r n [] r :=
  ⟨rfl, rfl, String.append_empty.symm, (List.append_nil _).symm, String.append_empty.symm⟩

/-- a line that cannot be read leaves an entry in the log and a report -/
theorem error {e : CommandError} (hline : Command.parseChars line = .error e)
    (h : Heeded ⟨r.session.note [.lineSkipped n e], r.out, r.err ++ report n e, r.failed⟩ (n + 1)
      lines t) : Heeded r n (line :: lines) t := by
  obtain ⟨hfailed, hsession, hout, hskips, herr⟩ := h
  have hcommands : commands (line :: lines) = commands lines :=
    List.filterMap_cons_none (command?_error hline)
  -- the entry is hushed, so the session goes on as if the line were not there
  have hhushed : Session.hushed (r.session.note [.lineSkipped n e]) = r.session.hushed := by
    unfold Session.hushed
    rw [Store.trace_note, hush_append]
    exact congrArg (fun trace => { r.session with trace }) (List.append_nil _)
  rw [hhushed, ← hcommands] at hsession hout
  refine ⟨hfailed, hsession, hout, ?_, ?_⟩
  · rw [unread_cons_error hline, hskips, Store.trace_note, skips_append, List.append_assoc]
    rfl
  · rw [unread_cons_error hline, herr, List.map_cons, String.join_cons, String.append_assoc]

theorem silent (hline : Command.parseChars line = .ok none) (h : Heeded r (n + 1) lines t) :
    Heeded r n (line :: lines) t := by
  obtain ⟨hfailed, hsession, hout, hskips, herr⟩ := h
  have hcommands : commands (line :: lines) = commands lines :=
    List.filterMap_cons_none (command?_ok hline)
  rw [← hcommands] at hsession hout
  rw [← unread_cons_ok hline nofun] at hskips herr
  exact ⟨hfailed, hsession, hout, hskips, herr⟩

theorem command {sync : Synchronizer Location} {c : Command} (hs : Settled r.session sync)
    (hline : Command.parseChars line = .ok (some c)) (hc : c ≠ .quit)
    (h : Heeded ⟨r.session.after c, r.out ++ r.session.printed c, r.err, r.failed⟩ (n + 1) lines
      t) : Heeded r n (line :: lines) t := by
  obtain ⟨hfailed, hsession, hout, hskips, herr⟩ := h
  have hcommands : commands (line :: lines) = c :: commands lines :=
    List.filterMap_cons_some (command?_ok hline)
  have hprinted : r.session.printed c = r.session.hushed.printed c := by cases c <;> rfl
  rw [hushed_after hs] at hsession hout
  rw [skips_after hs] at hskips
  rw [← unread_cons_ok hline (by simpa using hc)] at hskips herr
  refine ⟨hfailed, ?_, ?_, hskips, herr⟩
  · rw [hcommands, perform_cons _ hc]
    exact hsession
  · rw [hcommands, perform_cons _ hc, ← hprinted, ← String.append_assoc]
    exact hout

theorem quit (hline : Command.parseChars line = .ok (some .quit)) (r : ScriptRun) (n : Nat)
    (lines : List (List Char)) : Heeded r n (line :: lines) r := by
  have hcommands : commands (line :: lines) = .quit :: commands lines :=
    List.filterMap_cons_some (command?_ok hline)
  have hunread := unread_cons_quit hline n lines
  refine ⟨rfl, ?_, ?_, ?_, ?_⟩
  · rw [hcommands, perform_quit]
  · rw [hcommands, perform_quit, String.append_empty]
  · rw [hunread, List.append_nil]
  · rw [hunread]
    exact String.append_empty.symm

end Heeded

theorem heeded_runFrom {r : ScriptRun} {sync : Synchronizer Location}
    (hs : Settled r.session sync) (n : Nat) (lines : List (List Char)) :
    Heeded r n lines (runFrom r n (lines.map utf8)) := by
  induction lines generalizing r sync n with
  | nil => exact .nil r n
  | cons line lines ih =>
    have hreading := reading_utf8 line
    rw [List.map_cons]
    match hline : Command.parseChars line with
    | .error e =>
      rw [hline] at hreading
      rw [runFrom_error hreading]
      exact .error hline (ih (hs.note _) (n + 1))
    | .ok none =>
      rw [hline] at hreading
      rw [runFrom_silent hreading]
      exact .silent hline (ih hs (n + 1))
    | .ok (some c) =>
      rw [hline] at hreading
      by_cases hc : c = .quit
      · subst hc
        rw [runFrom_quit hreading]
        exact .quit hline r n lines
      · obtain ⟨sync', hs'⟩ := settled_after hs c
        rw [runFrom_command hreading hc]
        exact .command hs hline hc (ih hs' (n + 1))

/-- what follows the line that ends a script does not matter -/
theorem runFrom_append_quit {q : List Char} (hq : command? q = some .quit) (r : ScriptRun) (n : Nat)
    (before after after' : List (List Char)) :
    runFrom r n ((before ++ q :: after).map utf8) =
      runFrom r n ((before ++ q :: after').map utf8) := by
  have hquit : Command.parseChars q = .ok (some .quit) := by
    unfold command? at hq
    split at hq
    · next hline => rw [hline, hq]
    · cases hq
  rw [List.map_append, List.map_append, List.map_cons, List.map_cons]
  exact runFrom_append_cons (fun _ => ⟨q, rfl, hquit⟩) r n _ _ _

/-! ## whole scripts -/

theorem commands_append (lines lines' : List (List Char)) :
    commands (lines ++ lines') = commands lines ++ commands lines' :=
  List.filterMap_append ..

theorem commands_filter_speaks (lines : List (List Char)) :
    commands (lines.filter speaks) = commands lines := by
  unfold commands speaks
  rw [List.filterMap_filter]
  refine List.filterMap_congr fun line _ => ?_
  cases command? line <;> rfl

theorem quit_notMem_commands {lines : List (List Char)}
    (h : ∀ line ∈ lines, command? line ≠ some .quit) : .quit ∉ commands lines := by
  intro hmem
  obtain ⟨line, hline, hquit⟩ := List.mem_filterMap.mp hmem
  exact h line hline hquit

theorem heeded_run (c : Config) (text : List Char) :
    Heeded ⟨start c, "", "", false⟩ 1 (textLines text) (run (start c) (utf8 text)) := by
  rw [run_utf8]
  exact heeded_runFrom (settled_start c).1 1 (textLines text)

theorem out_run (c : Config) (text : List Char) :
    (run (start c) (utf8 text)).out = ((start c).perform (commands (textLines text))).out := by
  rw [(heeded_run c text).out, hushed_start]
  exact String.empty_append

theorem seen_run (c : Config) (sink : Sink) (text : List Char) :
    (run (start c) (utf8 text)).seen sink =
      ((start c).perform (commands (textLines text))).seen sink := by
  have hsession := (heeded_run c text).session
  rw [hushed_start] at hsession
  -- entries about lines are not among what is seen
  unfold ScriptRun.seen Outcome.seen
  rw [← seen_hushed, hsession, out_run]

theorem seen_perform_looks (s : Session) (sink : Sink) {before looks : List (List Char)}
    (hbefore : ∀ line ∈ before, command? line ≠ some .quit)
    (hlooks : ∀ line ∈ looks, command? line = some .state ∨ command? line = some .location)
    (after : List (List Char)) :
    let there := s.perform (commands before)
    ∃ rest, (s.perform (commands (before ++ after))).out = there.out ++ rest ∧
      (s.perform (commands (before ++ looks ++ after))).seen sink =
        { (s.perform (commands (before ++ after))).seen sink with
          out := there.out ++ String.join ((commands looks).map there.session.printed) ++
            rest } := by
  intro there
  have hquit := quit_notMem_commands hbefore
  have hprints : ∀ c ∈ commands looks, c = .state ∨ c = .location := by
    intro c hc
    obtain ⟨line, hline, hlook⟩ := List.mem_filterMap.mp hc
    rcases hlooks line hline with h | h
    · exact .inl (Option.some.inj (hlook.symm.trans h))
    · exact .inr (Option.some.inj (hlook.symm.trans h))
  have hquit' : .quit ∉ commands looks := by
    intro hmem
    rcases hprints .quit hmem with h | h <;> cases h
  have hplain := s.perform_append hquit (commands after)
  have hmore := s.perform_append hquit (commands looks ++ commands after)
  rw [perform_append _ hquit', perform_looks _ hprints] at hmore
  refine ⟨(there.session.perform (commands after)).out, ?_, ?_⟩
  · rw [commands_append, hplain]
  · rw [commands_append, commands_append, commands_append, List.append_assoc, hmore, hplain,
      String.append_assoc]
    rfl

/-- **A script is its commands.**  Under every configuration, for every sink and every text, what
there is to see of the script is what there is to see when its commands are performed.  So it is
the same for a text whose lines differ only in lines without a command; a text that differs only
after a line that ends it is the same script; and lines that print, put in before such a line, add
what they print there and nothing else.  The lines that are reported are those before the end that
cannot be read, in their order and by their place among all lines. -/
theorem run_commands (c : Config) (sink : Sink) (text : List Char) :
    let script := fun text : List Char => run (start c) (utf8 text)
    let performed := fun lines => (start c).perform (commands lines)
    (script text).failed = false ∧
    (script text).seen sink = (performed (textLines text)).seen sink ∧
    (∀ text', (textLines text').filter speaks = (textLines text).filter speaks →
      (script text').seen sink = (script text).seen sink) ∧
    (∀ before quit after after' text', textLines text = before ++ quit :: after →
      command? quit = some .quit → textLines text' = before ++ quit :: after' →
      script text' = script text) ∧
    (∀ before looks after text', textLines text = before ++ after →
      textLines text' = before ++ looks ++ after →
      (∀ line ∈ before, command? line ≠ some .quit) →
      (∀ line ∈ looks, command? line = some .state ∨ command? line = some .location) →
      ∃ rest, (script text).out = (performed before).out ++ rest ∧
        (script text').seen sink = { (script text).seen sink with
          out := (performed before).out ++
            String.join ((commands looks).map (performed before).session.printed) ++ rest }) ∧
    (sink.logged (effects (script text).session.trace)).filterMap LogEntry.skip? =
      unread 1 (textLines text) ∧
    (script text).err = String.join ((unread 1 (textLines text)).map fun x => report x.1 x.2) := by
  intro script performed
  have hheeded := heeded_run c text
  refine ⟨hheeded.failed, seen_run c sink text, ?_, ?_, ?_, ?_, ?_⟩
  · intro text' hspeaks
    rw [seen_run, seen_run, ← commands_filter_speaks, hspeaks, commands_filter_speaks]
  · intro before quit after after' text' hlines hquit hlines'
    show run (start c) (utf8 text') = run (start c) (utf8 text)
    rw [run_utf8, run_utf8, hlines, hlines']
    exact runFrom_append_quit hquit _ 1 before after' after
  · intro before looks after text' hlines hlines' hbefore hlooks
    obtain ⟨rest, hout, hseen⟩ := seen_perform_looks (start c) sink hbefore hlooks after
    refine ⟨rest, ?_, ?_⟩
    · rw [out_run, hlines]
      exact hout
    · rw [seen_run, seen_run, hlines, hlines']
      exact hseen
  · rw [skip?_logged, ← skips_eq, hheeded.skips]
    show skips (start c).trace ++ _ = _
    rw [skips_of_forall (skip?_start c), List.nil_append]
  · rw [hheeded.err]
    exact String.empty_append

/-- a script without its idle lines, one with another end, and one with a line more that prints -/
theorem run_commands_edited :
    let script := fun text : String => run (start .default) (utf8 text.toList)
    let whole := "# tabs\r\nready\nfoo\n\nroute /\r\nselect a\nreload x\nexit\nbar\n"
    let short := "ready\nroute /\r\nselect a\n\nexit"
    let longer := "# tabs\nready\nfoo\n\nroute /\nselect a\nreload x\nexit\nselect b\n"
    let looked := "ready\nroute /\nlocation\r\nselect a\n\nexit"
    (script short).seen .memory = (script whole).seen .memory ∧
    script longer = script whole ∧
    (script looked).seen .memory =
      { (script short).seen .memory with
        out := "location:  (history: 1)\n" ++ (script short).out } ∧
    (Sink.memory.logged (effects (script whole).session.trace)).filterMap LogEntry.skip? =
      [(3, .unknown "foo"), (7, .invalidPeriod "x")] := by
  intro script whole short longer looked
  obtain ⟨-, -, hidle, hend, -, hskipped, -⟩ := run_commands .default .memory whole.toList
  obtain ⟨-, -, -, -, hlooks, -, -⟩ := run_commands .default .memory short.toList
  let lines := fun texts : List String => texts.map String.toList
  let before := lines ["ready", "route /"]
  have hout : ((start .default).perform (commands before)).out = "" := by decide +kernel
  have hprinted : String.join ((commands (lines ["location"])).map
      ((start .default).perform (commands before)).session.printed) =
        "location:  (history: 1)\n" := by decide +kernel
  refine ⟨hidle _ (by decide +kernel), ?_, ?_, hskipped.trans (by decide +kernel)⟩
  · exact hend (lines ["# tabs", "ready", "foo", "", "route /", "select a", "reload x"])
      "exit".toList (lines ["bar"]) (lines ["select b"]) _ (by decide +kernel) (by decide +kernel)
      (by decide +kernel)
  · obtain ⟨rest, hshort, hlooked⟩ := hlooks before (lines ["location"])
      (lines ["select a", "", "exit"]) looked.toList (by decide +kernel) (by decide +kernel)
      (by decide +kernel) (by decide +kernel)
    rw [hout, String.empty_append] at hshort
    rw [hout, hprinted, String.empty_append, ← hshort] at hlooked
    exact hlooked

end Script

end TabShell
