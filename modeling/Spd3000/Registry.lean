/-
  The registry of commands (`scpi.py`), and the commands that the driver sends.

  `COMMANDS` lists the documented commands, and `lookupCommand` finds entries by
  the header of a text.  The header of a command of a documented form is that of
  its fixed beginning (`header_matches`), so one table covers every argument
  (`formOn_registered`); `Sends` carries this through the threads of a driver.
-/
import Spd3000.Forms
import Spd3000.Isolation

namespace Spd3000

/-! ## Entries -/

/-- How a header may be used. -/
inductive Access where
  | read | write | readWrite
  deriving DecidableEq

/-- The use as a query or as a write is documented. -/
def Access.permits : Access → Bool → Bool
  | read, query => query
  | write, query => !query
  | readWrite, _ => true

def ALL_MODELS : List Model := [.spd3303X, .spd3303XE, .spd3303C]

def X_MODELS : List Model := [.spd3303X, .spd3303XE]

structure CommandInfo where
  canonicalScpi : PyStr
  pythonPath : PyStr
  access : Access
  unit : Option PyStr
  models : List Model
  source : PyStr
  pythonAliases : List PyStr
  aliases : List PyStr
  deriving DecidableEq

/-- The function `_command`, with its defaults. -/
def command (canonical path : PyStr) (access : Access) : CommandInfo :=
  ⟨canonical, path, access, none, ALL_MODELS, "SPD3303X/SPD3303C Quick Start", [], []⟩

def lockSource : PyStr := "SPD Local Front Panel Lock Out SCPI commands"

def COMMANDS : List CommandInfo := [
  command "*IDN?" "idn" .read,
  { command "*SAV" "sav(slot)" .write with pythonAliases := ["save(slot)"] },
  { command "*RCL" "rcl(slot)" .write with pythonAliases := ["recall(slot)"] },
  { command "INSTRUMENT" "instrument" .readWrite with aliases := ["INST"] },
  { command "MEASURE:CURRENT?" "measure.current(channel)" .read with
    unit := some "A", aliases := ["MEAS:CURR?"] },
  { command "MEASURE:VOLTAGE?" "measure.voltage(channel)" .read with
    unit := some "V", aliases := ["MEAS:VOLT?"] },
  { command "MEASURE:POWER?" "measure.power(channel)" .read with
    unit := some "W", models := X_MODELS, aliases := ["MEAS:POWE?"] },
  { command "CH1:CURRENT" "ch1.current" .readWrite with unit := some "A", aliases := ["CH1:CURR"] },
  { command "CH1:VOLTAGE" "ch1.voltage" .readWrite with unit := some "V", aliases := ["CH1:VOLT"] },
  { command "CH2:CURRENT" "ch2.current" .readWrite with unit := some "A", aliases := ["CH2:CURR"] },
  { command "CH2:VOLTAGE" "ch2.voltage" .readWrite with unit := some "V", aliases := ["CH2:VOLT"] },
  { command "OUTPUT" "output(channel, state)" .write with
    pythonAliases := ["ch1.output", "ch2.output", "ch3.output"], aliases := ["OUTP"] },
  { command "OUTPUT:TRACK" "output.track(mode)" .write with aliases := ["OUTP:TRACK"] },
  { command "OUTPUT:WAVE" "output.wave(channel, state)" .write with
    models := X_MODELS, aliases := ["OUTP:WAVE"] },
  { command "TIMER" "timer(channel, state)" .write with models := X_MODELS },
  { command "TIMER:SET" "timer.set(channel, group[, voltage_v, current_a, duration_s])"
      .readWrite with unit := some "V,A,s", models := X_MODELS },
  { command "SYSTEM:ERROR?" "system.error" .read with aliases := ["SYST:ERR?"] },
  { command "SYSTEM:VERSION?" "system.version" .read with aliases := ["SYST:VERS?"] },
  { command "SYSTEM:STATUS?" "system.status" .read with aliases := ["SYST:STAT?"] },
  { command "IPADDR" "ipaddr" .readWrite with
    models := X_MODELS, pythonAliases := ["network.host"], aliases := ["IP"] },
  { command "MASKADDR" "maskaddr" .readWrite with
    models := X_MODELS, pythonAliases := ["network.subnet_mask"], aliases := ["MASK"] },
  { command "GATEADDR" "gateaddr" .readWrite with
    models := X_MODELS, pythonAliases := ["network.gateway"], aliases := ["GATE"] },
  { command "DHCP" "dhcp" .readWrite with
    models := X_MODELS, pythonAliases := ["network.dhcp"] },
  { command "*LOCK" "lock()" .write with source := lockSource },
  { command "*UNLOCK" "unlock()" .write with source := lockSource },
  { command "*LOCK?" "locked" .read with models := X_MODELS, source := lockSource }]

/-! ## Lookup -/

/-- The string `text.rstrip("?")`. -/
def rstripMarks (s : PyStr) : PyStr := (s.reverse.dropWhile fun c => c.val == 63).reverse

/-- The header of a text whose first character is no white space. -/
def headerOfWord (s : PyStr) : PyStr := rstripMarks (upper (s.takeWhile fun c => !isSpace c))

/-- The function `_header`; the list of the words of a blank text has no first element. -/
def header (command : PyStr) : Except PyExc PyStr :=
  if strip command = [] then .error (.msg .indexError "list index out of range")
  else .ok (headerOfWord (strip command))

/-- The texts under which an entry is found. -/
def CommandInfo.names (info : CommandInfo) : List PyStr := info.canonicalScpi :: info.aliases

def CommandInfo.foundBy (wanted : PyStr) (info : CommandInfo) : Except PyExc Bool :=
  (info.names.mapM header).map fun headers => headers.contains wanted

/-- The entries of a list that are found. -/
def foundIn (wanted : PyStr) : List CommandInfo → Except PyExc (List CommandInfo)
  | [] => .ok []
  | info :: infos => do
    let found ← info.foundBy wanted
    let later ← foundIn wanted infos
    return if found then info :: later else later

def lookupCommand (command : PyStr) : Except PyExc (List CommandInfo) := do
  let wanted ← header command
  foundIn wanted COMMANDS

def iterCommands (model : Option Model) : List CommandInfo :=
  COMMANDS.filter fun info => model.all (· ∈ info.models)

/-! ## Headers -/

theorem takeWhile_append_neg {α : Type} {p : α → Bool} (l : List α) {l' : List α}
    (h : ∀ a ∈ l', p a = false) : (l ++ l').takeWhile p = l.takeWhile p := by
  induction l with
  | nil =>
    cases l' with
    | nil => rfl
    | cons a l' => exact List.takeWhile_cons_of_neg (by simp [h a])
  | cons a l ih => by_cases ha : p a <;> simp [ha, ih]

/-- White space at the end is not in the first word. -/
theorem headerOfWord_strip (s : PyStr) :
    headerOfWord (strip s) = headerOfWord (s.dropWhile isSpace) := by
  have hsplit : s.dropWhile isSpace =
      strip s ++ ((s.dropWhile isSpace).reverse.takeWhile isSpace).reverse := by
    rw [strip, ← List.reverse_append, List.takeWhile_append_dropWhile, List.reverse_reverse]
  have hspace : ∀ c ∈ ((s.dropWhile isSpace).reverse.takeWhile isSpace).reverse,
      (!isSpace c) = false := by
    intro c hc
    rw [List.mem_takeWhile_imp (List.mem_reverse.1 hc)]
    rfl
  rw [headerOfWord, headerOfWord]
  conv_rhs => rw [hsplit]
  rw [takeWhile_append_neg _ hspace]

theorem header_eq {s : PyStr} {c : CodePoint} (hc : c ∈ s) (hvisible : isSpace c = false) :
    header s = .ok (headerOfWord (s.dropWhile isSpace)) := by
  rw [header, if_neg (strip_ne_nil hc hvisible), headerOfWord_strip]

/-- The name of an entry is a word. -/
theorem names_visible : ∀ info ∈ COMMANDS, ∀ name ∈ info.names,
    name.all (fun c => !isSpace c) ∧ name ≠ [] := by decide +kernel

theorem header_name {info : CommandInfo} (h : info ∈ COMMANDS) {name : PyStr}
    (hname : name ∈ info.names) : header name = .ok (headerOfWord name) := by
  obtain ⟨hall, hne⟩ := names_visible info h name hname
  have hvisible : ∀ c ∈ name, isSpace c = false := by simpa using hall
  obtain ⟨c, hc⟩ := List.exists_mem_of_ne_nil name hne
  rw [header_eq hc (hvisible c hc),
    dropWhile_of_head fun c hc => hvisible c (List.mem_of_mem_head? hc)]

def CommandInfo.headers (info : CommandInfo) : List PyStr := info.names.map headerOfWord

theorem foundBy_eq {info : CommandInfo} (h : info ∈ COMMANDS) (wanted : PyStr) :
    info.foundBy wanted = .ok (info.headers.contains wanted) := by
  have hheaders : info.names.mapM header = .ok info.headers := by
    have hnames : ∀ name ∈ info.names, header name = .ok (headerOfWord name) := fun _ =>
      header_name h
    rw [CommandInfo.headers]
    generalize info.names = names at hnames
    induction names with
    | nil => rfl
    | cons name names ih =>
      rw [List.forall_mem_cons] at hnames
      rw [List.mapM_cons, hnames.1, ih hnames.2]
      rfl
  rw [CommandInfo.foundBy, hheaders]
  rfl

theorem foundIn_eq (wanted : PyStr) {infos : List CommandInfo} (h : infos ⊆ COMMANDS) :
    foundIn wanted infos = .ok (infos.filter (wanted ∈ ·.headers)) := by
  induction infos with
  | nil => rfl
  | cons info infos ih =>
    rw [List.cons_subset] at h
    rw [foundIn, foundBy_eq h.1, ih h.2, List.filter_cons, List.contains_eq_mem]
    by_cases hfound : wanted ∈ info.headers <;> simp [hfound] <;> rfl

/-- A lookup finds the entries with the header of the text. -/
theorem lookupCommand_eq {s : PyStr} {c : CodePoint} (hc : c ∈ s) (hvisible : isSpace c = false) :
    lookupCommand s =
      .ok (COMMANDS.filter (headerOfWord (s.dropWhile isSpace) ∈ ·.headers)) := by
  rw [lookupCommand, header_eq hc hvisible]
  exact foundIn_eq _ (List.Subset.refl _)

/-! ## Documented forms -/

/-- The registry documents the use of the text, as a query or as a write, on the model. -/
def documents (m : Model) (query : Bool) (text : PyStr) : Bool :=
  match lookupCommand text with
  | .error _ => false
  | .ok found => found.any fun info => info ∈ iterCommands (some m) && info.access.permits query

/-- The fixed text at the beginning of a form. -/
def leading : List Field → PyStr
  | .text s :: fields => s ++ leading fields
  | _ => []

def Field.fixed : Field → Bool
  | text _ => true
  | _ => false

/-- The first word of a text of the form is fixed. -/
def wordFixed (fields : List Field) : Bool :=
  (leading fields).head?.any (!isSpace ·) &&
    (fields.all Field.fixed || (leading fields).any isSpace)

theorem Matches.leading {fields : List Field} {text : PyStr} (h : Matches fields text) :
    ∃ rest, text = leading fields ++ rest ∧ (fields.all Field.fixed → rest = []) := by
  obtain ⟨parts, hparts, rfl⟩ := h
  induction hparts with
  | nil => exact ⟨[], rfl, fun _ => rfl⟩
  | @cons f t fields parts hadmits _ ih =>
    obtain ⟨rest, hrest, hfixed⟩ := ih
    cases f with
    | text s =>
      obtain rfl : t = s := hadmits
      refine ⟨rest, ?_, hfixed⟩
      rw [List.flatten_cons, hrest, Spd3000.leading, List.append_assoc]
    | _ => exact ⟨_, rfl, fun hall => absurd hall (by simp [Field.fixed])⟩

/-- All texts of a form are looked up like its fixed beginning. -/
theorem lookup_matches {fields : List Field} {text : PyStr} (h : Matches fields text)
    (hf : wordFixed fields) : lookupCommand text = lookupCommand (leading fields) := by
  obtain ⟨rest, rfl, hfixed⟩ := h.leading
  rw [wordFixed, Bool.and_eq_true, Bool.or_eq_true] at hf
  obtain ⟨hhead, hword⟩ := hf
  generalize leading fields = start at hhead hword ⊢
  cases start with
  | nil => cases hhead
  | cons c start =>
    have hc : isSpace c = false := by simpa using hhead
    have hdrop : ∀ s, (c :: s).dropWhile isSpace = c :: s := fun s =>
      List.dropWhile_cons_of_neg (by rw [hc]; decide)
    rw [List.cons_append, lookupCommand_eq List.mem_cons_self hc,
      lookupCommand_eq List.mem_cons_self hc, hdrop, hdrop]
    have hsame : headerOfWord (c :: (start ++ rest)) = headerOfWord (c :: start) := by
      rcases hword with hall | hspace
      · rw [hfixed hall, List.append_nil]
      · have hnot : ¬ ∀ x ∈ c :: start, (!isSpace x) = true := by
          obtain ⟨x, hx, hxs⟩ := List.any_eq_true.1 hspace
          exact fun hall => by simpa [hxs] using hall x hx
        rw [headerOfWord, headerOfWord, ← List.cons_append, List.takeWhile_append,
          if_neg fun hlength => hnot (List.takeWhile_eq_self_iff.1 ?_)]
        exact List.Sublist.eq_of_length (List.takeWhile_sublist _) hlength
    rw [hsame]

/-- The form of an operation on a model: without `*LOCK?`, locking is not read back. -/
def SemanticCall.formOn (m : Model) : SemanticCall → Form
  | lock => .write [.text "*LOCK"] (if m.capabilities.lockQuery then some [.text "*LOCK?"] else none)
  | unlock =>
    .write [.text "*UNLOCK"] (if m.capabilities.lockQuery then some [.text "*LOCK?"] else none)
  | op => op.form

/-- The forms of the commands, with those that are queries marked. -/
def Form.uses : Form → List (Bool × List Field)
  | write command readback => (false, command) :: readback.toList.map (true, ·)
  | read queries => queries.map (true, ·)

/-- The forms of all commands on every model. -/
def commonUses : List (Bool × List Field) := [
  (true, [.text "*IDN?"]), (false, [.text "*SAV ", .oneToFive]), (false, [.text "*RCL ", .oneToFive]),
  (true, [.text "INST?"]), (false, [.text "INST ", .channel true]),
  (true, [.text "MEAS:VOLT? ", .channel true]), (true, [.text "MEAS:CURR? ", .channel true]),
  (true, [.text "CH1", .text ":VOLT?"]), (false, [.text "CH1", .text ":VOLT ", .number]),
  (true, [.text "CH2", .text ":VOLT?"]), (false, [.text "CH2", .text ":VOLT ", .number]),
  (true, [.text "CH1", .text ":CURR?"]), (false, [.text "CH1", .text ":CURR ", .number]),
  (true, [.text "CH2", .text ":CURR?"]), (false, [.text "CH2", .text ":CURR ", .number]),
  (false, stateFields "OUTP " (.channel false)), (false, stateFields "OUTP " (.text "CH1")),
  (false, stateFields "OUTP " (.text "CH2")), (false, stateFields "OUTP " (.text "CH3")),
  (false, [.text "OUTP:TRACK ", .trackingMode]), (true, [.text "SYST:STAT?"]),
  (true, [.text "SYST:ERR?"]), (true, [.text "SYST:VERS?"]),
  (false, [.text "*LOCK"]), (false, [.text "*UNLOCK"])]

/-- The forms of all commands on the models with all features. -/
def xUses : List (Bool × List Field) := [
  (true, [.text "MEAS:POWE? ", .channel true]), (false, stateFields "OUTP:WAVE " (.channel true)),
  (false, stateFields "TIMER " (.channel true)), (true, timerSetFields),
  (false, [.text "TIMER:SET ", .channel true, .text ",", .oneToFive, .text ",", .number,
    .text ",", .number, .text ",", .number]),
  (true, [.text "IPADDR?"]), (false, [.text "IPADDR ", .address]),
  (true, [.text "MASKADDR?"]), (false, [.text "MASKADDR ", .netmask]),
  (true, [.text "GATEADDR?"]), (false, [.text "GATEADDR ", .address]),
  (true, [.text "DHCP?"]), (false, [.text "DHCP ", .state]), (true, [.text "*LOCK?"])]

def Model.uses : Model → List (Bool × List Field)
  | spd3303X | spd3303XE => commonUses ++ xUses
  | spd3303C => commonUses

theorem uses_documented : ∀ m ∈ ALL_MODELS, ∀ use ∈ m.uses,
    wordFixed use.2 ∧ documents m use.1 (leading use.2) := by decide +kernel

/-- The operations that `_require` refuses on the SPD3303C. -/
def SemanticCall.restricted : SemanticCall → Bool
  | measurePower _ | outputWave _ _ | timer _ _ | timerSet _ _ _ _ _ | getIpaddr | setIpaddr _
  | getMaskaddr | setMaskaddr _ | getGateaddr | setGateaddr _ | getDhcp | setDhcp _
  | networkSettings | locked | getHost | setHost _ | getSubnetMask | setSubnetMask _ | getGateway
  | setGateway _ | getNetworkDhcp | setNetworkDhcp _ => true
  | _ => false

/-- The forms of an operation that is not refused are those of its model. -/
theorem formOn_uses {m : Model} {op : SemanticCall} (h : op.restricted → m ≠ .spd3303C) :
    (op.formOn m).uses ⊆ m.uses := by
  have hcommon : commonUses ⊆ m.uses := by
    cases m with
    | spd3303C => exact List.Subset.refl _
    | _ => exact List.subset_append_left _ _
  have hall : op.restricted → commonUses ++ xUses ⊆ m.uses := by
    intro hr
    cases m with
    | spd3303C => exact absurd rfl (h hr)
    | _ => exact List.Subset.refl _
  cases op with
  | getVoltage c | setVoltage c value | getCurrent c | setCurrent c value =>
    obtain ⟨c, hc⟩ := c
    refine List.Subset.trans ?_ hcommon
    cases c with
    | ch3 => exact absurd rfl hc
    | _ => simp [SemanticCall.formOn, SemanticCall.form, Form.uses, commonUses, Channel.value]
  | setOutput c state =>
    refine List.Subset.trans ?_ hcommon
    cases c <;>
      simp [SemanticCall.formOn, SemanticCall.form, Form.uses, commonUses, Channel.value]
  | lock | unlock =>
    cases m <;>
      simp [SemanticCall.formOn, Form.uses, Model.uses, commonUses, xUses, Model.capabilities]
  | timerSet channel group voltage current duration =>
    refine List.Subset.trans ?_ (hall rfl)
    show (SemanticCall.timerSet channel group voltage current duration).form.uses ⊆ _
    rw [SemanticCall.form]
    split_ifs <;> simp [Form.uses, xUses]
  | measurePower _ | outputWave _ _ | timer _ _ | getIpaddr | setIpaddr _ | getMaskaddr
  | setMaskaddr _ | getGateaddr | setGateaddr _ | getDhcp | setDhcp _ | networkSettings | locked
  | getHost | setHost _ | getSubnetMask | setSubnetMask _ | getGateway | setGateway _
  | getNetworkDhcp | setNetworkDhcp _ =>
    refine List.Subset.trans ?_ (hall rfl)
    simp [SemanticCall.formOn, SemanticCall.form, Form.uses, commonUses, xUses]
  | _ =>
    refine List.Subset.trans ?_ hcommon
    simp [SemanticCall.formOn, SemanticCall.form, Form.uses, commonUses]

section
variable [PyText] {m : Model}

theorem restricted_refused {op : SemanticCall} (h : op.restricted) :
    ∃ e, op.method .spd3303C = .error e := by
  cases op with
  | measurePower _ | outputWave _ _ | timer _ _ | timerSet _ _ _ _ _ | getIpaddr | setIpaddr _
  | getMaskaddr | setMaskaddr _ | getGateaddr | setGateaddr _ | getDhcp | setDhcp _
  | networkSettings | locked | getHost | setHost _ | getSubnetMask | setSubnetMask _ | getGateway
  | setGateway _ | getNetworkDhcp | setNetworkDhcp _ => exact ⟨_, rfl⟩
  | _ => cases h

theorem setLocked_formOn (command : PyStr) (expected : Bool) :
    Gives (Operation.Documented (.write [.text command]
      (if m.capabilities.lockQuery then some [.text "*LOCK?"] else none)))
      (SPD3000.setLocked command expected m) := by
  unfold SPD3000.setLocked
  split_ifs
  · exact .ok (documented_write (matches_text _) (matches_text _))
  · exact .ok (documented_unverified (matches_text _))

theorem method_formOn (op : SemanticCall) :
    Gives (Operation.Documented (op.formOn m)) (op.method m) := by
  cases op with
  | lock | unlock => exact setLocked_formOn _ _
  | _ => exact method_documented m _

/-- A command, and whether it is a query, that the registry documents. -/
def Registered (m : Model) (c : Bool × PyStr) : Prop := documents m c.1 c.2 = true

omit [PyText] in
theorem registered_use {u : Bool × List Field} (h : u ∈ m.uses) {text : PyStr}
    (htext : Matches u.2 text) : Registered m (u.1, text) := by
  obtain ⟨hword, hdocuments⟩ := uses_documented m (by cases m <;> simp [ALL_MODELS]) u h
  rw [Registered, documents, lookup_matches htext hword]
  exact hdocuments

omit [PyText] in
theorem PendingOperation.HasForm.registered {form : Form} {p : PendingOperation}
    (h : p.HasForm form) (hform : form.uses ⊆ m.uses) : ∀ c ∈ p.texts, Registered m c := by
  intro c hc
  cases h with
  | @write fields readback w hcommand hreadback =>
    rcases List.mem_cons.1 hc with rfl | hc
    · exact registered_use (hform List.mem_cons_self) hcommand
    · obtain ⟨b, hb, rfl⟩ := List.mem_map.1 hc
      obtain ⟨query, hquery, hmatches⟩ := hreadback b (Option.mem_toList.1 hb)
      refine registered_use (u := (true, query)) (hform (List.mem_cons_of_mem _ ?_)) hmatches
      exact List.mem_map_of_mem (Option.mem_toList.2 hquery)
  | @read queries r hcommands =>
    obtain ⟨text, htext, rfl⟩ := List.mem_map.1 hc
    generalize r.commands = commands at hcommands htext
    induction hcommands with
    | nil => cases htext
    | @cons query text' queries commands hmatches _ ih =>
      rw [Form.uses, List.map_cons, List.cons_subset] at hform
      rcases List.mem_cons.1 htext with rfl | htext
      · exact registered_use (u := (true, query)) hform.1 hmatches
      · exact ih hform.2 htext

/-- A semantic operation sends registered commands only, verified or not. -/
theorem method_registered {op : SemanticCall} {o : Operation} (h : op.method m = .ok o)
    (verify : Bool) (i : ℕ) : ∀ c ∈ (o.pending verify i).texts, Registered m c := by
  refine ((method_formOn op o h).pending verify i).registered (formOn_uses fun hr hm => ?_)
  obtain ⟨e, he⟩ := restricted_refused hr
  rw [hm, he] at h
  cases h

end

/-! ## Threads -/

section
variable {ε τ : Type} (P : Bool × PyStr → Prop)

/-- All commands of an operation have a property. -/
def PendingOperation.All (op : PendingOperation) : Prop := ∀ c ∈ op.texts, P c

/-- All commands that a call can lead to have the property. -/
def DriverCall.All : DriverCall → Prop
  | write command verification reason => ∀ verify, PendingOperation.All P
      (.write ⟨command, SPD3000.selectVerification verify verification reason⟩)
  | queries commands _ _ => ∀ c ∈ commands, P (true, c)
  | executeRawBatch batch => ∀ c ∈ batch.commands, P c.sent
  | _ => True

def Activity.All : Activity → Prop
  | running call => call.All P
  | handing op => op.All P
  | endingBatch _ pending _ _ => ∀ op ∈ pending, op.All P
  | _ => True

/-- All commands that a driver has been handed, and all that its threads are about to hand over,
    have the property. -/
structure Sends (s : SharedDriver ε τ) (es : List (τ × Happening)) : Prop where
  pending : ∀ op ∈ s.device.pendingOperations, op.All P
  threads : ∀ t, (s.threads t).activity.All P
  handed : ∀ b ∈ handedBatches es, ∀ c ∈ b.commands, P c.sent

variable {P}

theorem batchOf_all {ops : List PendingOperation} (h : ∀ op ∈ ops, op.All P) :
    ∀ b ∈ (batchOf ops).toList, ∀ c ∈ b.commands, P c.sent := by
  intro b hb c hc
  have hbatch : BatchOf ops b := batchOf_eq_some.1 (Option.mem_toList.1 hb)
  have hmem : c.sent ∈ textsOf ops := hbatch ▸ List.mem_map_of_mem hc
  obtain ⟨op, hop, hc⟩ := List.mem_flatMap.1 hmem
  exact h op hop _ hc

variable [DecidableEq τ] [PyText] {E : Executor ε} {t : τ}

/-- One step of a thread hands over commands with the property only. -/
theorem step_all {v : ThreadView ε τ} {a : ThreadAction} {r : ThreadView ε τ × List Happening}
    (hstep : v.step E t a = some r) (hpending : ∀ op ∈ v.device.pendingOperations, op.All P)
    (hactivity : v.thread.activity.All P) (hcall : ∀ call, a = .call call → call.All P) :
    (∀ op ∈ r.1.device.pendingOperations, op.All P) ∧ r.1.thread.activity.All P ∧
      ∀ b ∈ handedBatches (r.2.map (t, ·)), ∀ c ∈ b.commands, P c.sent := by
  obtain ⟨⟨scopes, activity⟩, l, d⟩ := v
  have hquiet : ∀ b ∈ handedBatches ([] : List (τ × Happening)), ∀ c ∈ b.commands, P c.sent :=
    List.forall_mem_nil _
  cases activity with
  | idle =>
    cases a with
    | call call =>
      obtain ⟨l', -, rfl⟩ := Option.map_eq_some_iff.1 hstep
      exact ⟨hpending, hcall call rfl, hquiet⟩
    | exit completed =>
      rcases scopes with _ | ⟨_ | enabled, scopes⟩
      · cases hstep
      · cases hstep
        exact ⟨List.forall_mem_nil _, hpending, hquiet⟩
      · cases hstep
        exact ⟨hpending, trivial, hquiet⟩
    | next => cases hstep
  | running call =>
    cases a with
    | next =>
      cases hstep
      cases call with
      | write command verification reason => exact ⟨hpending, hactivity _, hquiet⟩
      | queries commands nonempty parser =>
        refine ⟨hpending, fun c hc => ?_, hquiet⟩
        obtain ⟨text, htext, rfl⟩ := List.mem_map.1 hc
        exact hactivity text htext
      | executeRawBatch batch =>
        rw [ThreadView.runCall]
        split_ifs
        · exact ⟨hpending, trivial, hquiet⟩
        · refine ⟨hpending, trivial, fun b hb => ?_⟩
          obtain rfl : b = batch := by simpa [handedBatches] using hb
          exact hactivity
      | beginBatch =>
        rw [ThreadView.runCall]
        split_ifs
        · exact ⟨hpending, trivial, hquiet⟩
        · exact ⟨List.forall_mem_nil _, trivial, hquiet⟩
      | _ => exact ⟨hpending, trivial, hquiet⟩
    | _ => cases hstep
  | handing op =>
    have hone : ∀ op' ∈ [op], op'.All P := by
      intro op' hop'
      rw [List.mem_singleton.1 hop']
      exact hactivity
    cases a with
    | next =>
      cases hstep
      unfold ThreadView.hand
      dsimp only
      split_ifs
      · refine ⟨fun op' hop' => ?_, trivial, hquiet⟩
        rcases List.mem_append.1 hop' with hop' | hop'
        · exact hpending op' hop'
        · exact hone op' hop'
      · refine ⟨hpending, trivial, fun b hb => batchOf_all hone b ?_⟩
        simpa [handedBatches] using hb
    | _ => cases hstep
  | endingBatch execute pending responses ids =>
    cases a with
    | next =>
      cases hstep
      refine ⟨?_, trivial, fun b hb => batchOf_all hactivity b ?_⟩
      · rw [(finishBatch_scopes E execute pending responses ids d).pending]
        exact hpending
      · cases execute with
        | false => cases hb
        | true => simpa [handedBatches] using hb
    | _ => cases hstep
  | leaving =>
    cases a with
    | next =>
      obtain ⟨l', -, rfl⟩ := Option.map_eq_some_iff.1 hstep
      exact ⟨hpending, trivial, hquiet⟩
    | _ => cases hstep

/-- Threads whose calls have the property hand over commands with the property only. -/
theorem run_all {labels : List (τ × ThreadAction)} {s s' : SharedDriver ε τ}
    {es es' : List (τ × Happening)} (hcalls : ∀ t call, (t, .call call) ∈ labels → call.All P)
    (hs : Sends P s es) (hrun : (threadSystem E).run labels s = some (s', es')) :
    Sends P s' (es ++ es') := by
  refine Runs.System.invariant_of (P := Sends P) ?_ hs hrun
  rintro ⟨t, a⟩ hmem s es s' es' ⟨hpending, hthreads, hhanded⟩ hstep
  obtain ⟨r, hr, heq⟩ := Option.map_eq_some_iff.1 hstep
  cases heq
  obtain ⟨hpending', hactivity, hbatches⟩ := step_all hr hpending (hthreads t)
    fun call ha => hcalls t call (ha ▸ hmem)
  refine ⟨hpending', fun u => ?_, fun b hb => ?_⟩
  · by_cases hu : u = t
    · subst hu
      show (Function.update s.threads u r.1.thread u).activity.All P
      rw [Function.update_self]
      exact hactivity
    · show (Function.update s.threads t r.1.thread u).activity.All P
      rw [Function.update_of_ne hu]
      exact hthreads u
  · rw [handedBatches_append] at hb
    rcases List.mem_append.1 hb with hb | hb
    · exact hhanded b hb
    · exact hbatches b hb

end

/-- The call of `_write` or `_queries` that ends a semantic operation. -/
def Operation.driverCall : Operation → DriverCall
  | write _ command verification reason => .write command verification reason
  | read commands nonempty parser => .queries commands nonempty parser

section
variable {ε τ : Type} [DecidableEq τ] [PyText]

/-- The calls of a program that uses semantic operations, scopes and the global flag only. -/
def DriverCall.Semantic (m : Model) (call : DriverCall) : Prop :=
  match call with
  | .write .. | .queries .. => ∃ op o, SemanticCall.method m op = .ok o ∧ o.driverCall = call
  | .executeRawBatch _ => False
  | _ => True

theorem DriverCall.Semantic.all {m : Model} {call : DriverCall} (h : call.Semantic m) :
    call.All (Registered m) := by
  cases call with
  | write command verification reason =>
    obtain ⟨op, o, hmethod, ho⟩ := h
    cases o with
    | write override command' verification' reason' =>
      cases ho
      intro verify c hc
      have hall := method_registered hmethod
      have hdocumented := method_formOn op _ hmethod
      generalize op.formOn m = form at hdocumented
      cases hdocumented with
      | write _ _ => exact hall verify 0 c hc
    | read _ _ _ => cases ho
  | queries commands nonempty parser =>
    obtain ⟨op, o, hmethod, ho⟩ := h
    cases o with
    | write _ _ _ _ => cases ho
    | read commands' nonempty' parser' =>
      cases ho
      exact fun c hc => method_registered hmethod true 0 _ (List.mem_map_of_mem hc)
  | executeRawBatch batch => exact h.elim
  | _ => trivial

/-- **The registry is complete.**  Whatever semantic operations any threads call in whatever scopes
    and order, every command that the driver hands to its executor is found in the registry, with
    an entry that documents this use of it on the model. -/
theorem commands_registered (E : Executor ε) (x : ε) (initially : Bool) {m : Model}
    {labels : List (τ × ThreadAction)} {s : SharedDriver (ε × List CommandBatch) τ}
    {es : List (τ × Happening)} (hcalls : ∀ t call, (t, .call call) ∈ labels → call.Semantic m)
    (hrun : (threadSystem E.recorded).run labels (.make (x, []) initially) = some (s, es)) :
    ∀ b ∈ s.device.executor.2, ∀ c ∈ b.commands, documents m c.isQuery c.text := by
  have hstart : Sends (Registered m) (SharedDriver.make (x, []) initially :
      SharedDriver (ε × List CommandBatch) τ) [] := ⟨nofun, fun _ => trivial, nofun⟩
  have hsends := run_all (fun t call hmem => (hcalls t call hmem).all) hstart hrun
  have hlog : s.device.executor.2 = handedBatches es := run_log E hrun rfl
  rw [hlog]
  exact hsends.handed

end

/-! ## One call -/

/-- The call of `_write` in `psu.output("ch1", "on")`. -/
def outputSwitch : DriverCall :=
  .write "OUTP CH1,ON" (some (@verifiedByStatus PyText.blank .spd3303X (.bool true)
    fun status => .bool (status.channel .ch1).output)) none

/-- That call in a verification scope. -/
def verifiedSwitch : List (Unit × ThreadAction) := [
  ((), .call (.beginVerifyWrites true)), ((), .next),
  ((), .call outputSwitch), ((), .next), ((), .next), ((), .next),
  ((), .exit true), ((), .next)]

theorem verifiedSwitch_semantic (t : Unit) (call : DriverCall)
    (h : (t, .call call) ∈ verifiedSwitch) : @DriverCall.Semantic PyText.blank .spd3303X call := by
  have hcall : call = .beginVerifyWrites true ∨ call = outputSwitch := by
    simpa [verifiedSwitch] using h
  rcases hcall with rfl | rfl
  · exact trivial
  · exact ⟨.output (.str "ch1") (.str "on"), _, rfl, rfl⟩

theorem verifiedSwitch_registered : ∃ s es,
    (@threadSystem _ Unit _ PyText.blank ones.recorded).run verifiedSwitch (.make ((), []) false) =
      some (s, es) ∧
    (∀ b ∈ s.device.executor.2, ∀ c ∈ b.commands, documents .spd3303X c.isQuery c.text) ∧
    s.device.executor.2.map (fun b => b.commands.map Command.sent) =
      [[(false, lit "OUTP CH1,ON"), (true, lit "SYST:STAT?")]] := by
  have hlog : ((@threadSystem _ Unit _ PyText.blank ones.recorded).run verifiedSwitch
      (.make ((), []) false)).map
      (fun p => p.1.device.executor.2.map fun b => b.commands.map Command.sent) =
      some [[(false, lit "OUTP CH1,ON"), (true, lit "SYST:STAT?")]] := by decide +kernel
  let _ : PyText := PyText.blank
  obtain ⟨⟨s, es⟩, hrun, hlog⟩ := Option.map_eq_some_iff.1 hlog
  exact ⟨s, es, hrun, commands_registered ones () false verifiedSwitch_semantic hrun, hlog⟩

end Spd3000
