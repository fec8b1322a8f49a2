import ApiStyle.CommandLine.Invocation
import ApiStyle.Proofs.Results

/-! Formats that arguments can ask for. Each step of the reading of arguments keeps to the formats of its command, so a
list of the passes is only ever wanted for people or as JSON. -/

namespace ApiStyle

namespace Given

/-- A format that was asked for is one of those of the command. -/
def KeepsTo (scope : Scope) (given : Given) : Prop := ∀ format ∈ given.format, format ∈ scope.formats

variable {scope : Scope} {given changed : Given}

private theorem mem_formats_of_named {text : String} {format : Format} (named : formatNamed scope text = .ok format) :
    format ∈ scope.formats := by
  unfold formatNamed at named
  split at named
  next found =>
    obtain rfl := Except.ok.inj named
    exact List.mem_of_find?_eq_some found
  next => cases named

theorem KeepsTo.setValue {flag : Flag} {text : String} (keeps : given.KeepsTo scope)
    (set : given.setValue scope flag text = .ok changed) : changed.KeepsTo scope := by
  cases flag with
  | format =>
    obtain ⟨_, _, set⟩ := bind_eq_ok.mp set
    obtain ⟨format, named, set⟩ := bind_eq_ok.mp set
    obtain rfl := Except.ok.inj set
    rintro _ ⟨⟩
    exact mem_formats_of_named named
  | config | pathNaming | parameterNaming | propertyNaming =>
    obtain ⟨_, _, set⟩ := bind_eq_ok.mp set
    obtain ⟨_, _, set⟩ := bind_eq_ok.mp set
    obtain rfl := Except.ok.inj set
    exact keeps
  | disable | enable =>
    obtain ⟨_, _, set⟩ := bind_eq_ok.mp set
    obtain rfl := Except.ok.inj set
    exact keeps
  | _ =>
    obtain rfl := Except.ok.inj set
    exact keeps

private theorem KeepsTo.setSwitch {flag : Flag} (keeps : given.KeepsTo scope)
    (set : given.setSwitch scope flag = .ok changed) : changed.KeepsTo scope := by
  cases flag with
  | quiet | robot =>
    obtain ⟨_, _, set⟩ := bind_eq_ok.mp set
    obtain rfl := Except.ok.inj set
    exact keeps
  | help | version => cases set
  | _ =>
    obtain rfl := Except.ok.inj set
    exact keeps

private theorem KeepsTo.settle {pending : Pending} (keeps : given.KeepsTo scope)
    (settled : given.settle scope pending = .ok changed) : changed.KeepsTo scope := by
  cases pending with
  | nothing =>
    obtain rfl := Except.ok.inj settled
    exact keeps
  | flag flag value =>
    cases value with
    | none => cases settled
    | some text => exact keeps.setValue settled
  | input text =>
    obtain ⟨_, _, settled⟩ := bind_eq_ok.mp settled
    obtain rfl := Except.ok.inj settled
    exact keeps

end Given

namespace Reader

variable {scope : Scope} {reader changed : Reader}

theorem keepsTo_settle (keeps : reader.given.KeepsTo scope) (settled : reader.settle scope = .ok changed) :
    changed.given.KeepsTo scope := by
  obtain ⟨given, settling, made⟩ := bind_eq_ok.mp settled
  obtain rfl := Except.ok.inj made
  exact keeps.settle settling

theorem keepsTo_takeFlag {flag : Flag} {joined : Option String} (keeps : reader.given.KeepsTo scope)
    (taken : reader.takeFlag scope flag joined = .ok changed) : changed.given.KeepsTo scope := by
  obtain ⟨settled, settling, taken⟩ := bind_eq_ok.mp taken
  have keeps := keepsTo_settle keeps settling
  cases joined with
  | none =>
    obtain rfl := Except.ok.inj taken
    exact keeps
  | some text =>
    obtain ⟨given, set, made⟩ := bind_eq_ok.mp taken
    obtain rfl := Except.ok.inj made
    exact keeps.setValue set

theorem keepsTo_takeSwitch {flag : Flag} (keeps : reader.given.KeepsTo scope)
    (taken : reader.takeSwitch scope flag = .ok changed) : changed.given.KeepsTo scope := by
  obtain ⟨settled, settling, taken⟩ := bind_eq_ok.mp taken
  obtain ⟨given, set, made⟩ := bind_eq_ok.mp taken
  obtain rfl := Except.ok.inj made
  exact (keepsTo_settle keeps settling).setSwitch set

private theorem keepsTo_takeLong {name : String} {joined : Option String} (keeps : reader.given.KeepsTo scope)
    (taken : reader.takeLong scope name joined = .ok changed) : changed.given.KeepsTo scope := by
  unfold takeLong at taken
  split at taken
  · cases taken
  split at taken
  · exact keepsTo_takeFlag keeps taken
  split at taken
  · cases taken
  · exact keepsTo_takeSwitch keeps taken

private theorem keepsTo_takeShort {letters : List Char} (keeps : reader.given.KeepsTo scope)
    (taken : takeShort scope letters reader = .ok changed) : changed.given.KeepsTo scope := by
  induction letters generalizing reader with
  | nil =>
    obtain rfl := Except.ok.inj taken
    exact keeps
  | cons letter letters ih =>
    unfold takeShort at taken
    split at taken
    · cases taken
    split at taken
    · exact keepsTo_takeFlag keeps taken
    · obtain ⟨switched, switching, taken⟩ := bind_eq_ok.mp taken
      exact ih (keepsTo_takeSwitch keeps switching) taken

private theorem keepsTo_takeInput {text : String} (keeps : reader.given.KeepsTo scope)
    (taken : reader.takeInput scope text = .ok changed) : changed.given.KeepsTo scope := by
  unfold takeInput at taken
  split at taken
  · cases taken
  · cases taken
  split at taken
  · cases taken
  · obtain ⟨settled, settling, made⟩ := bind_eq_ok.mp taken
    have keeps := keepsTo_settle keeps settling
    obtain rfl := Except.ok.inj made
    exact keeps

private theorem keepsTo_take {text : String} (keeps : reader.given.KeepsTo scope)
    (taken : reader.take scope text = .ok changed) : changed.given.KeepsTo scope := by
  unfold take at taken
  split at taken
  · exact keepsTo_takeInput keeps taken
  split at taken
  · obtain rfl := Except.ok.inj taken
    exact keeps
  -- A long flag with a joined value, and one without.
  · split at taken
    · exact keepsTo_takeLong keeps taken
    · exact keepsTo_takeLong keeps taken
  · exact keepsTo_takeShort keeps taken
  · unfold takePlain at taken
    split at taken
    · split at taken
      · exact keepsTo_takeInput keeps taken
      · obtain rfl := Except.ok.inj taken
        exact keeps
    · exact keepsTo_takeInput keeps taken

theorem keepsTo_readFrom {texts : List String} {rest : Option (String × List String)}
    (keeps : reader.given.KeepsTo scope) (read : readFrom scope reader texts = .ok (changed, rest)) :
    changed.given.KeepsTo scope := by
  induction texts generalizing reader with
  | nil =>
    cases read
    exact keeps
  | cons text texts ih =>
    rw [readFrom] at read
    split at read
    · cases read
      exact keeps
    · obtain ⟨next, taken, read⟩ := bind_eq_ok.mp read
      exact ih (keepsTo_take keeps taken) read

end Reader

namespace Invocation

private theorem keepsTo_finish {robot : Option String} {scope : Scope} {reader : Reader} {given : Given}
    (keeps : reader.given.KeepsTo scope) (finished : finish robot scope reader = .ok given) :
    given.KeepsTo scope := by
  obtain ⟨settled, settling, finished⟩ := bind_eq_ok.mp finished
  have keeps := Reader.keepsTo_settle keeps settling
  unfold Given.withRobotVariable at finished
  split at finished
  · obtain rfl := Except.ok.inj finished
    exact keeps
  split at finished
  · obtain rfl := Except.ok.inj finished
    exact keeps
  split at finished
  · obtain rfl := Except.ok.inj finished
    exact keeps
  split at finished
  · obtain rfl := Except.ok.inj finished
    exact keeps
  · cases finished

theorem format_of_rules {robot : Option String} {arguments : List String} {invocation : Invocation}
    (parsed : ofArguments robot arguments = .ok invocation) {format : Format}
    (asked : invocation.request = .rules (some format)) : format = .human ∨ format = .json := by
  obtain ⟨⟨before, rest⟩, _, parsed⟩ := bind_eq_ok.mp parsed
  cases rest with
  | none =>
    obtain ⟨_, _, impossible⟩ := bind_eq_ok.mp parsed
    cases impossible
  | some rest =>
    obtain ⟨name, arguments⟩ := rest
    dsimp only at parsed
    split at parsed
    · cases parsed
    next command _ =>
      obtain ⟨⟨after, _⟩, read, parsed⟩ := bind_eq_ok.mp parsed
      obtain ⟨inner, finished, parsed⟩ := bind_eq_ok.mp parsed
      obtain ⟨request, requested, parsed⟩ := bind_eq_ok.mp parsed
      obtain ⟨outer, _, parsed⟩ := bind_eq_ok.mp parsed
      obtain rfl := Except.ok.inj parsed
      have keeps : inner.KeepsTo (some command) :=
        keepsTo_finish (Reader.keepsTo_readFrom (by rintro _ ⟨⟩) read) finished
      cases command with
      | validate =>
        cases input : inner.input with
        | none =>
          rw [Given.request, input] at requested
          cases requested
        | some path =>
          rw [Given.request, input] at requested
          obtain rfl := Except.ok.inj requested
          cases asked
      | rules =>
        obtain rfl := Except.ok.inj requested
        have offered := keeps format (Request.rules.inj asked)
        simpa [Scope.formats] using offered

end Invocation

end ApiStyle
