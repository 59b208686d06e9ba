import HermesBundle.Build.Pipeline
import HermesBundle.Proofs.Build.Compilation
import HermesBundle.Proofs.Json.Encoding

/-! # Foreign failures — where composing ends without an error of a build

    What a build ends with should be an error of its own, whatever the
    programs it runs have written.  For the step that composes the maps
    this is so except where nobody looked (`Escapes`): bytes that are no
    UTF-8, texts beyond the limits of reading, values beyond those of
    writing, and names that cannot be handed to the system.  The list is
    exact (`composedMap_failsForeign_iff`).  The route:

    * foreign failures of a sequence are those of its steps
      (`failsForeign_bind`);
    * of a text read as JSON only a syntax fault is reported
      (`readMap_failsForeign_iff`), and what was read can be written
      (`Json.excess?_of_read`);
    * of a run of node everything is reported but what its output is read
      as (`askNode_failsForeign_iff`). -/

namespace HermesBundle

/-- A failure that is no error of a build. -/
def Failure.IsForeign (f : Failure) : Prop := ∀ e, f ≠ .build e

/-- A reading failure that is no fault of the syntax: a limit of the
    reader was exceeded. -/
def Json.ReadError.IsLimit : Json.ReadError → Prop
  | .syntaxFault _ _ _ => False
  | .tooManyDigits _ => True
  | .tooDeep => True

namespace Action

variable {α β : Type} {m : Machine} {f : Failure}

/-- An action ends with a failure that is no error of a build. -/
def FailsForeign (x : Action α) (m : Machine) (f : Failure) : Prop :=
  f.IsForeign ∧ ∃ after, x.FailsWith m f after

/-- The foreign failures of a sequence are those of its steps. -/
theorem failsForeign_bind {x : Action α} {k : α → Action β} :
    (x >>= k).FailsForeign m f
      ↔ x.FailsForeign m f ∨ ∃ a middle, x.Gives m a middle ∧ (k a).FailsForeign middle f := by
  unfold FailsForeign
  constructor
  · rintro ⟨hforeign, after, h⟩
    rcases failsWith_bind.mp h with hfirst | ⟨a, middle, hgives, hsecond⟩
    · exact .inl ⟨hforeign, after, hfirst⟩
    · exact .inr ⟨a, middle, hgives, hforeign, after, hsecond⟩
  · rintro (⟨hforeign, after, hfirst⟩ | ⟨a, middle, hgives, hforeign, after, hsecond⟩)
    · exact ⟨hforeign, after, failsWith_bind.mpr (.inl hfirst)⟩
    · exact ⟨hforeign, after, failsWith_bind.mpr (.inr ⟨a, middle, hgives, hsecond⟩)⟩

/-- A sequence whose first step gives a value fails as the rest does. -/
theorem failsForeign_bind_of_gives {x : Action α} {k : α → Action β} {a : α} {middle : Machine}
    (h : x.Gives m a middle) : (x >>= k).FailsForeign m f ↔ (k a).FailsForeign middle f := by
  unfold FailsForeign FailsWith
  rw [perform_bind_of_gives h]

/-- A sequence whose first step fails has its failure. -/
theorem failsForeign_bind_of_failsWith {x : Action α} {k : α → Action β} {g : Failure}
    {after : Machine} (h : x.FailsWith m g after) :
    (x >>= k).FailsForeign m f ↔ f.IsForeign ∧ f = g := by
  unfold FailsForeign FailsWith
  rw [perform_bind_of_failsWith h]
  constructor
  · rintro ⟨hforeign, _, hfails⟩
    exact ⟨hforeign, (Except.error.inj (congrArg Prod.fst hfails)).symm⟩
  · rintro ⟨hforeign, rfl⟩
    exact ⟨hforeign, after, rfl⟩

/-- A value that is given is no failure. -/
@[simp] theorem failsForeign_pure (a : α) : ¬(pure a : Action α).FailsForeign m f :=
  fun ⟨_, _, h⟩ => nomatch h

/-- A thrown failure is foreign if it is no error of a build. -/
@[simp] theorem failsForeign_throw {g : Failure} :
    (throw g : Action α).FailsForeign m f ↔ f.IsForeign ∧ f = g := by
  constructor
  · rintro ⟨hforeign, after, h⟩
    exact ⟨hforeign, (Except.error.inj (congrArg Prod.fst h)).symm⟩
  · rintro ⟨hforeign, rfl⟩
    exact ⟨hforeign, m, rfl⟩

/-- The result of a function fails as the function does. -/
theorem failsForeign_ofExcept {ε : Type} {failure : ε → Failure} {x : Except ε α} :
    (ofExcept failure x).FailsForeign m f ↔ f.IsForeign ∧ ∃ e, x = .error e ∧ failure e = f := by
  unfold FailsForeign
  refine and_congr_right fun _ => ⟨fun ⟨_, h⟩ => (failsWith_ofExcept.mp h).1, fun h => ?_⟩
  exact ⟨m, failsWith_ofExcept.mpr ⟨h, rfl⟩⟩

/-- A value is not written if it exceeds a limit, and the failure is
    foreign. -/
theorem dump_failsForeign_iff {layout : Json.Layout} {j : Json} :
    (ofExcept Failure.ofWriteError (Json.dump layout j)).FailsForeign m f
      ↔ ∃ e, j.excess? Json.depthLimit = some e ∧ Failure.ofWriteError e = f := by
  simp only [failsForeign_ofExcept, Json.dump_eq_error_iff]
  refine ⟨fun h => h.2, fun h => ⟨?_, h⟩⟩
  obtain ⟨e, -, rfl⟩ := h
  cases e with
  | tooManyDigits => exact fun _ he => nomatch he
  | tooDeep => exact fun _ he => nomatch he

/-- A name check that fails does so because the name is not usable, and
    its failure is foreign. -/
theorem isForeign_of_checkName {path : Text} {after : Machine}
    (h : (checkName path).FailsWith m f after) :
    FileSystem.isUsable path = false ∧ f.IsForeign ∧ after = m := by
  have hunusable : FileSystem.isUsable path = false := by
    cases husable : FileSystem.isUsable path with
    | false => rfl
    | true => exact nomatch h.symm.trans (checkName_gives_iff.mpr ⟨husable, Eq.refl m⟩)
  unfold checkName at h
  split at h
  · obtain ⟨hf, rfl⟩ := Prod.mk.inj h
    obtain rfl := Except.error.inj hf
    exact ⟨hunusable, fun _ he => (nomatch he), rfl⟩
  · split at h
    · obtain ⟨hf, rfl⟩ := Prod.mk.inj h
      obtain rfl := Except.error.inj hf
      exact ⟨hunusable, fun _ he => (nomatch he), rfl⟩
    · exact nomatch h

end Action

namespace Build

open HermesBundle.Action FileSystem

variable {m : Machine} {f : Failure}

/-! ## Reading -/

/-- A text that says a document is read as it, and leaves the machine. -/
theorem readMap_gives_iff {which : MapText} {text : Text} {doc : Json} {after : Machine} :
    (readMap which text).Gives m doc after ↔ Json.read text = .ok doc ∧ m = after := by
  unfold readMap
  split
  · rename_i doc' hread
    rw [hread, gives_pure, Except.ok.injEq]
  · rename_i hread
    rw [hread]
    exact ⟨fun h => (nomatch h), fun h => nomatch h.1⟩
  · rename_i hread
    rw [hread]
    exact ⟨fun h => (nomatch h), fun h => nomatch h.1⟩

/-- A text is not read if it exceeds a limit. -/
theorem readMap_failsForeign_iff {which : MapText} {text : Text} :
    (readMap which text).FailsForeign m f
      ↔ ∃ e, Json.read text = .error e ∧ e.IsLimit ∧ f = .json e := by
  unfold readMap
  split
  · rename_i hread
    rw [hread]
    exact ⟨fun h => (failsForeign_pure _ h).elim, fun ⟨_, h, _⟩ => nomatch h⟩
  · rename_i hread
    rw [hread]
    constructor
    · rintro h
      obtain ⟨hforeign, rfl⟩ := failsForeign_throw.mp h
      exact (hforeign _ rfl).elim
    · rintro ⟨e, h, hlimit, -⟩
      obtain rfl := Except.error.inj h
      exact hlimit.elim
  · rename_i e hfault hread
    rw [hread]
    constructor
    · intro h
      obtain ⟨-, rfl⟩ := failsForeign_throw.mp h
      refine ⟨e, rfl, ?_, rfl⟩
      cases e with
      | syntaxFault fault text position => exact (hfault fault text position rfl).elim
      | tooManyDigits count => trivial
      | tooDeep => trivial
    · rintro ⟨e', h, -, rfl⟩
      obtain rfl := Except.error.inj h
      exact failsForeign_throw.mpr ⟨fun _ he => (nomatch he), rfl⟩

/-- The text that bytes are taken for. -/
theorem outputText_gives_iff {bytes : Bytes} {text : Text} {after : Machine} :
    (outputText bytes).Gives m text after
      ↔ ∃ t, Utf8.decode? bytes = some t ∧ t.unifyNewlines = text ∧ m = after := by
  unfold outputText
  split
  · rename_i t hdecoded
    rw [hdecoded, gives_pure]
    constructor
    · exact fun h => ⟨t, rfl, h⟩
    · rintro ⟨t', ht, h⟩
      obtain rfl := Option.some.inj ht
      exact h
  · rename_i hdecoded
    rw [hdecoded]
    exact ⟨fun h => (nomatch h), fun ⟨_, h, _⟩ => nomatch h⟩

/-! ## Node -/

/-- Programs that are killed only when their time is up. -/
def IsPatient (programs : Programs) : Prop :=
  ∀ files here call, call.allowed = none → (programs files here call).2.2 ≠ .killed

/-- What node is asked to do with some input. -/
def nodeCall (module : Path) (node : Text) (input : Bytes) (m : Machine) : Invocation :=
  ⟨[node, Text.ofString "-e", nodeScript, module.toText], none, m.environment, input, none⟩

/-- The script can be handed to the system. -/
theorem isUsable_nodeScript : isUsable nodeScript = true := by
  rw [isUsable_eq_all]
  unfold nodeScript Text.ofString
  -- Line by line: the text as a whole takes far longer to look through.
  simp only [String.toList_append, List.map_append, List.all_append, Bool.and_eq_true]
  and_intros
  all_goals decide +kernel

/-- Names that are checked one after another fail at the first that is not
    usable. -/
theorem checkNames_failsWith {before rest : List Text} {name : Text}
    (hbefore : ∀ x ∈ before, isUsable x = true) (h : (checkName name).FailsWith m f m) :
    (forIn (before ++ name :: rest) ⟨⟩ fun name _ => do
      checkName name
      pure (ForInStep.yield ⟨⟩) : Action PUnit).FailsWith m f m := by
  induction before with
  | nil =>
      rw [List.nil_append, List.forIn_cons]
      exact failsWith_bind.mpr (.inl (failsWith_bind.mpr (.inl h)))
  | cons x before ih =>
      obtain ⟨hx, hmore⟩ := List.forall_mem_cons.mp hbefore
      rw [List.cons_append, List.forIn_cons]
      exact failsWith_bind.mpr (.inr ⟨_, m,
        gives_bind.mpr ⟨(), m, checkName_gives_iff.mpr ⟨hx, rfl⟩, rfl⟩, ih hmore⟩)

/-- The foreign failures of asking node. -/
inductive AskEscapes (programs : Programs) (module : Path) (node : Text) (input : Bytes)
    (m : Machine) : Failure → Prop where
  /-- The name of node cannot be handed to the system. -/
  | node {f : Failure} : (checkName node).FailsWith m f m →
      AskEscapes programs module node input m f
  /-- The path of the module cannot be handed to the system. -/
  | module {f : Failure} : isUsable node = true → (checkName module.toText).FailsWith m f m →
      AskEscapes programs module node input m f
  /-- What node wrote is no UTF-8. -/
  | output {files : FileSystem} {here : Location} {status : Int} {out err : Bytes} {time : Nat} :
      isUsable node = true → isUsable module.toText = true →
      programs m.files m.here (nodeCall module node input m)
        = (files, here, .ended status out err time) →
      Utf8.decode? out = none ∨ Utf8.decode? err = none →
      AskEscapes programs module node input m .undecodable
  /-- What node answered exceeds a limit of reading. -/
  | answer {files : FileSystem} {here : Location} {out err : Bytes} {time : Nat} {t : Text}
      {e : Json.ReadError} : isUsable node = true → isUsable module.toText = true →
      programs m.files m.here (nodeCall module node input m)
        = (files, here, .ended 0 out err time) →
      Utf8.decode? out = some t → (Utf8.decode? err).isSome = true →
      Json.read t.unifyNewlines = .error e → e.IsLimit →
      AskEscapes programs module node input m (.json e)

/-- The foreign failures of composing by node. -/
inductive NodeEscapes (programs : Programs) (module : Path) (node : Text) (maps : List Json)
    (m : Machine) : Failure → Prop where
  /-- The chain exceeds a limit of writing. -/
  | input {e : Json.WriteError} : Json.excess? Json.depthLimit (.arr maps) = some e →
      NodeEscapes programs module node maps m (.ofWriteError e)
  /-- Asking node about the chain has a foreign failure. -/
  | asking {input : Text} {f : Failure} : Json.dump Json.spaced (.arr maps) = .ok input →
      AskEscapes programs module node input.bytes m f → NodeEscapes programs module node maps m f

section Node

variable {programs : Programs} {module : Path} {node : Text} {input : Bytes} {maps : List Json}

/-- Node is run if it and the module can be named. -/
theorem runNode_gives {files : FileSystem} {here : Location} {conclusion : Conclusion}
    (hnode : isUsable node = true) (hmodule : isUsable module.toText = true)
    (hrun : programs m.files m.here (nodeCall module node input m) = (files, here, conclusion)) :
    (runProgram programs [node, Text.ofString "-e", nodeScript, module.toText] none input
      none).Gives m conclusion (m.afterRun files here conclusion.time) := by
  refine runProgram_gives (fun name hname => ?_) hrun
  simp only [Option.toList_none, List.append_nil, List.mem_cons, List.not_mem_nil, or_false]
    at hname
  rcases hname with hname | hname | hname | hname
  · exact hname ▸ hnode
  · exact hname ▸ (rfl : isUsable (Text.ofString "-e") = true)
  · exact hname ▸ isUsable_nodeScript
  · exact hname ▸ hmodule

/-- Node is not run if one of the names fails the check. -/
theorem runNode_failsWith (h : (checkName node).FailsWith m f m
      ∨ isUsable node = true ∧ (checkName module.toText).FailsWith m f m) :
    (runProgram programs [node, Text.ofString "-e", nodeScript, module.toText] none input
      none).FailsWith m f m := by
  rcases h with hnode | ⟨hnode, hmodule⟩
  · exact runProgram_failsWith hnode
  · have hbefore : ∀ x ∈ [node, Text.ofString "-e", nodeScript], isUsable x = true := by
      simp only [List.forall_mem_cons]
      exact ⟨hnode, rfl, isUsable_nodeScript, fun _ hx => nomatch hx⟩
    exact failsWith_bind.mpr (.inl (checkNames_failsWith hbefore hmodule))

/-- What is made of the output of node: a foreign failure if it is no
    UTF-8, or if the answer exceeds a limit. -/
theorem answer_failsForeign_iff {status : Int} {out err : Bytes} :
    (do
      let out ← outputText out
      let err ← outputText err
      if status != 0 then throw (.build (.nodeFailed status (if err.isEmpty then out else err)))
      readMap .composer out : Action Json).FailsForeign m f
      ↔ (Utf8.decode? out = none ∨ Utf8.decode? err = none) ∧ f = .undecodable
        ∨ ∃ t e, Utf8.decode? out = some t ∧ (Utf8.decode? err).isSome = true ∧ status = 0
          ∧ Json.read t.unifyNewlines = .error e ∧ e.IsLimit ∧ f = .json e := by
  have hundecodable : ∀ {bytes : Bytes}, Utf8.decode? bytes = none →
      (outputText bytes).FailsWith m .undecodable m := by
    intro bytes hbytes
    unfold outputText
    rw [hbytes]
    rfl
  have hforeign : Failure.undecodable.IsForeign := fun _ he => nomatch he
  cases hout : Utf8.decode? out with
  | none =>
      rw [failsForeign_bind_of_failsWith (hundecodable hout)]
      constructor
      · exact fun h => .inl ⟨.inl rfl, h.2⟩
      · rintro (⟨-, rfl⟩ | ⟨_, _, h, -⟩)
        · exact ⟨hforeign, rfl⟩
        · exact nomatch h
  | some t =>
      rw [failsForeign_bind_of_gives (outputText_gives_iff.mpr ⟨t, hout, rfl, rfl⟩)]
      cases herr : Utf8.decode? err with
      | none =>
          rw [failsForeign_bind_of_failsWith (hundecodable herr)]
          constructor
          · exact fun h => .inl ⟨.inr rfl, h.2⟩
          · rintro (⟨-, rfl⟩ | ⟨_, _, -, h, -⟩)
            · exact ⟨hforeign, rfl⟩
            · exact nomatch h
      | some t' =>
          rw [failsForeign_bind_of_gives (outputText_gives_iff.mpr ⟨t', herr, rfl, rfl⟩)]
          by_cases hstatus : status = 0
          · subst hstatus
            refine readMap_failsForeign_iff.trans ?_
            constructor
            · rintro ⟨e, hread, hlimit, rfl⟩
              exact .inr ⟨t, e, rfl, rfl, rfl, hread, hlimit, rfl⟩
            · rintro (⟨h | h, -⟩ | ⟨_, e, ht, -, -, hread, hlimit, rfl⟩)
              · exact nomatch h
              · exact nomatch h
              · obtain rfl := Option.some.inj ht
                exact ⟨e, hread, hlimit, rfl⟩
          · have hfails : (status != 0) = true := bne_iff_ne.mpr hstatus
            rw [if_pos hfails]
            constructor
            · intro h
              obtain ⟨hbuild, rfl⟩ := (failsForeign_bind_of_failsWith (perform_throw _ _)).mp h
              exact (hbuild _ rfl).elim
            · rintro (⟨h | h, -⟩ | ⟨_, _, -, -, h, -⟩)
              · exact nomatch h
              · exact nomatch h
              · exact absurd h hstatus

/-- Everything node does is reported as an error of a build, but for what
    its output is read as. -/
theorem askNode_failsForeign_iff (hpatient : IsPatient programs) :
    (askNode programs module node input).FailsForeign m f
      ↔ AskEscapes programs module node input m f := by
  have hunique : ∀ {path : Text} {g g' : Failure}, (checkName path).FailsWith m g m →
      (checkName path).FailsWith m g' m → g = g' := fun h h' =>
    Except.error.inj (congrArg Prod.fst (h.symm.trans h'))
  unfold askNode
  cases hnode : isUsable node with
  | false =>
      obtain ⟨g, hg⟩ := exists_checkName_failsWith hnode
      rw [failsForeign_bind_of_failsWith (runNode_failsWith (.inl (hg m)))]
      constructor
      · rintro ⟨-, rfl⟩
        exact .node (hg m)
      · intro h
        cases h with
        | node h =>
            obtain rfl := hunique h (hg m)
            exact ⟨(isForeign_of_checkName h).2.1, rfl⟩
        | module h => exact nomatch hnode.symm.trans h
        | output h => exact nomatch hnode.symm.trans h
        | answer h => exact nomatch hnode.symm.trans h
  | true =>
      cases hmodule : isUsable module.toText with
      | false =>
          obtain ⟨g, hg⟩ := exists_checkName_failsWith hmodule
          rw [failsForeign_bind_of_failsWith (runNode_failsWith (.inr ⟨hnode, hg m⟩))]
          constructor
          · rintro ⟨-, rfl⟩
            exact .module hnode (hg m)
          · intro h
            cases h with
            | node h => exact nomatch hnode.symm.trans (isForeign_of_checkName h).1
            | module _ h =>
                obtain rfl := hunique h (hg m)
                exact ⟨(isForeign_of_checkName h).2.1, rfl⟩
            | output _ h => exact nomatch hmodule.symm.trans h
            | answer _ h => exact nomatch hmodule.symm.trans h
      | true =>
          obtain ⟨files, here, conclusion, hrun⟩ : ∃ files here conclusion,
              programs m.files m.here (nodeCall module node input m) = (files, here, conclusion) :=
            ⟨_, _, _, rfl⟩
          rw [failsForeign_bind_of_gives (runNode_gives hnode hmodule hrun)]
          have hnames : ∀ {g : Failure}, ¬((checkName node).FailsWith m g m
              ∨ (checkName module.toText).FailsWith m g m) := by
            rintro g (h | h)
            · exact nomatch hnode.symm.trans (isForeign_of_checkName h).1
            · exact nomatch hmodule.symm.trans (isForeign_of_checkName h).1
          have hreported : ∀ e : BuildError, (∀ status out err time,
              conclusion ≠ .ended status out err time) →
              ((throw (.build e) : Action Json).FailsForeign
                  (m.afterRun files here conclusion.time) f
                ↔ AskEscapes programs module node input m f) := by
            intro e hother
            rw [failsForeign_throw]
            constructor
            · rintro ⟨hforeign, rfl⟩
              exact (hforeign e rfl).elim
            · intro h
              cases h with
              | node h => exact (hnames (.inl h)).elim
              | module _ h => exact (hnames (.inr h)).elim
              | output _ _ h =>
                  exact (hother _ _ _ _ (congrArg (·.2.2) (hrun.symm.trans h))).elim
              | answer _ _ h =>
                  exact (hother _ _ _ _ (congrArg (·.2.2) (hrun.symm.trans h))).elim
          cases conclusion with
          | notStarted errno => exact hreported _ fun _ _ _ _ h => nomatch h
          | notEntered errno => exact hreported _ fun _ _ _ _ h => nomatch h
          | killed => exact (hpatient _ _ _ rfl (congrArg (·.2.2) hrun)).elim
          | ended status out err time =>
              refine answer_failsForeign_iff.trans ?_
              constructor
              · rintro (⟨hbytes, rfl⟩ | ⟨t, e, hout, herr, rfl, hread, hlimit, rfl⟩)
                · exact .output hnode hmodule hrun hbytes
                · exact .answer hnode hmodule hrun hout herr hread hlimit
              · intro h
                cases h with
                | node h => exact (hnames (.inl h)).elim
                | module _ h => exact (hnames (.inr h)).elim
                | output _ _ h hbytes =>
                    cases congrArg (·.2.2) (hrun.symm.trans h)
                    exact .inl ⟨hbytes, rfl⟩
                | answer _ _ h hout herr hread hlimit =>
                    cases congrArg (·.2.2) (hrun.symm.trans h)
                    exact .inr ⟨_, _, hout, herr, rfl, hread, hlimit, rfl⟩

/-- Composing by node fails foreignly where the chain cannot be written, or
    where asking node about it does. -/
theorem composeByNode_failsForeign_iff (hpatient : IsPatient programs) :
    (composeByNode programs module node maps).FailsForeign m f
      ↔ NodeEscapes programs module node maps m f := by
  unfold composeByNode
  rw [failsForeign_bind, dump_failsForeign_iff]
  simp only [gives_ofExcept, askNode_failsForeign_iff hpatient]
  constructor
  · rintro (⟨e, hexcess, rfl⟩ | ⟨input, _, ⟨hwritten, rfl⟩, hasking⟩)
    · exact .input hexcess
    · exact .asking hwritten hasking
  · intro h
    cases h with
    | input hexcess => exact .inl ⟨_, hexcess, rfl⟩
    | asking hwritten hasking => exact .inr ⟨_, _, ⟨hwritten, rfl⟩, hasking⟩

/-- What node makes of a chain was read from its answer. -/
theorem exists_read_of_composeByNode {composed : Json} {after : Machine}
    (h : (composeByNode programs module node maps).Gives m composed after) :
    ∃ t, Json.read t = .ok composed := by
  obtain ⟨input, _, -, h⟩ := gives_bind.mp h
  obtain ⟨conclusion, _, -, h⟩ := gives_bind.mp h
  cases conclusion with
  | ended status out err time =>
      obtain ⟨out, _, -, h⟩ := gives_bind.mp h
      obtain ⟨err, _, -, h⟩ := gives_bind.mp h
      dsimp only at h
      split at h
      · exact nomatch h
      · exact ⟨out, (readMap_gives_iff.mp h).1⟩
  | _ => exact nomatch h

end Node

/-! ## Composing -/

/-- What composes the maps of a build: something in the same process, or
    node. -/
inductive AnyComposer where
  | inProcess (compose : List Json → Action Json)
  | node (programs : Programs) (module : Path) (node : Text)

namespace AnyComposer

/-- What a composer makes of a chain. -/
def compose : AnyComposer → List Json → Action Json
  | inProcess compose => compose
  | node programs module program => composeByNode programs module program

/-- A composer in the same process that fails with source map errors only,
    or node that is run without a limit. -/
def IsAdmitted : AnyComposer → Prop
  | inProcess compose => ∀ maps m f after, (compose maps).FailsWith m f after →
      ∃ e, f = .build (.sourceMap e)
  | node programs _ _ => IsPatient programs

end AnyComposer

/-- What is found at the path of a map: nothing, or a file with some
    content. -/
def Finds (m : Machine) (path : Text) : Option Bytes → Prop
  | none => ∃ e, m.files.readFile m.here path = .error e ∧ e.isNoEntry = true
  | some bytes => m.files.readFile m.here path = .ok bytes

/-- The two maps that the bundler's text and the content of the compiler's
    file say. -/
def ReadsMaps (source : Text) (content : Option Bytes) (maps : List Json) : Prop :=
  ∃ bundler compiler bytes t, Json.read source = .ok bundler ∧ content = some bytes
    ∧ Utf8.decode? bytes = some t ∧ Json.read t.unifyNewlines = .ok compiler
    ∧ maps = [bundler, compiler]

/-- The foreign failures of composing the maps of a build. -/
inductive Escapes (composer : AnyComposer) (source : Text) (content : Option Bytes)
    (m : Machine) : Failure → Prop where
  /-- The bundler's map exceeds a limit of reading. -/
  | bundler {e : Json.ReadError} : Json.read source = .error e → e.IsLimit →
      Escapes composer source content m (.json e)
  /-- The compiler's map is no UTF-8. -/
  | undecodable {bundler : Json} {bytes : Bytes} : Json.read source = .ok bundler →
      content = some bytes → Utf8.decode? bytes = none →
      Escapes composer source content m .undecodable
  /-- The compiler's map exceeds a limit of reading. -/
  | compiler {bundler : Json} {bytes : Bytes} {t : Text} {e : Json.ReadError} :
      Json.read source = .ok bundler → content = some bytes → Utf8.decode? bytes = some t →
      Json.read t.unifyNewlines = .error e → e.IsLimit → Escapes composer source content m (.json e)
  /-- Composing by node has a foreign failure. -/
  | node {programs : Programs} {module : Path} {node : Text} {maps : List Json} {f : Failure} :
      composer = .node programs module node → ReadsMaps source content maps →
      NodeEscapes programs module node maps m f → Escapes composer source content m f
  /-- What a composer in the same process makes of the maps exceeds a limit
      of writing. -/
  | written {compose : List Json → Action Json} {maps : List Json} {composed : Json}
      {after : Machine} {e : Json.WriteError} :
      composer = .inProcess compose → ReadsMaps source content maps →
      (compose maps).Gives m composed after →
      Json.excess? Json.depthLimit composed = some e →
      Escapes composer source content m (.ofWriteError e)

section Composing

variable {composer : AnyComposer} {source : Text} {content : Option Bytes} {file : Path}

/-- What an attempt to read the compiler's map comes to. -/
theorem attempt_readText (hname : isUsable file.toText = true)
    (hfile : Finds m file.toText content) :
    (content = none ∧ ∃ e, e.isNoEntry = true
        ∧ (attempt (readText file.toText)).Gives m (.error (.system e)) m)
      ∨ (∃ bytes, content = some bytes ∧ Utf8.decode? bytes = none
        ∧ (attempt (readText file.toText)).Gives m (.error .undecodable) m)
      ∨ ∃ bytes t, content = some bytes ∧ Utf8.decode? bytes = some t
        ∧ (attempt (readText file.toText)).Gives m (.ok t.unifyNewlines) m := by
  have hattempt : ∀ {outcome : Except Failure Text},
      (readText file.toText).perform m = (outcome, m) →
      (attempt (readText file.toText)).Gives m outcome m := by
    intro outcome h
    unfold Gives
    rw [perform_attempt, h]
  have hread := perform_readBytes hname m
  cases content with
  | none =>
      obtain ⟨e, he, hmissing⟩ := hfile
      rw [he] at hread
      exact .inl ⟨rfl, e, hmissing, hattempt (perform_bind_of_failsWith hread _)⟩
  | some bytes =>
      have hbytes : m.files.readFile m.here file.toText = .ok bytes := hfile
      rw [hbytes] at hread
      have hperform : (readText file.toText).perform m = _ := perform_bind_of_gives hread _
      cases hdecoded : Utf8.decode? bytes with
      | none =>
          simp only [hdecoded] at hperform
          exact .inr (.inl ⟨bytes, rfl, hdecoded, hattempt hperform⟩)
      | some t =>
          simp only [hdecoded] at hperform
          exact .inr (.inr ⟨bytes, t, rfl, hdecoded, hattempt hperform⟩)

/-- The two maps are read, or the failure is reported, but for what their
    texts are read as. -/
theorem readMaps_failsForeign_iff (hname : isUsable file.toText = true)
    (hfile : Finds m file.toText content) :
    (readMaps source file).FailsForeign m f
      ↔ (∃ e, Json.read source = .error e ∧ e.IsLimit ∧ f = .json e)
        ∨ ∃ bundler bytes, Json.read source = .ok bundler ∧ content = some bytes
          ∧ (Utf8.decode? bytes = none ∧ f = .undecodable
            ∨ ∃ t e, Utf8.decode? bytes = some t ∧ Json.read t.unifyNewlines = .error e
              ∧ e.IsLimit ∧ f = .json e) := by
  unfold readMaps
  cases hsource : Json.read source with
  | error e =>
      rw [failsForeign_bind, readMap_failsForeign_iff, hsource]
      constructor
      · rintro (h | ⟨_, _, hgives, -⟩)
        · exact .inl h
        · exact nomatch hsource.symm.trans (readMap_gives_iff.mp hgives).1
      · rintro (h | ⟨_, _, h, -⟩)
        · exact .inl h
        · exact nomatch h
  | ok bundler =>
      rw [failsForeign_bind_of_gives (readMap_gives_iff.mpr ⟨hsource, rfl⟩)]
      rcases attempt_readText hname hfile with
        ⟨rfl, e, hmissing, hgives⟩ | ⟨bytes, rfl, hdecoded, hgives⟩ | ⟨bytes, t, rfl, hdecoded, hgives⟩
      · rw [failsForeign_bind_of_gives hgives]
        dsimp only
        rw [if_pos hmissing, failsForeign_throw]
        constructor
        · rintro ⟨hbuild, rfl⟩
          exact (hbuild _ rfl).elim
        · rintro (⟨_, h, -⟩ | ⟨_, _, -, h, -⟩)
          · exact nomatch h
          · exact nomatch h
      · rw [failsForeign_bind_of_gives hgives]
        refine failsForeign_throw.trans ?_
        constructor
        · exact fun h => .inr ⟨bundler, bytes, rfl, rfl, .inl ⟨hdecoded, h.2⟩⟩
        · rintro (⟨_, h, -⟩ | ⟨_, _, -, h, (⟨-, rfl⟩ | ⟨_, _, ht, -⟩)⟩)
          · exact nomatch h
          · exact ⟨fun _ he => (nomatch he), rfl⟩
          · obtain rfl := Option.some.inj h
            exact nomatch hdecoded.symm.trans ht
      · rw [failsForeign_bind_of_gives hgives]
        refine failsForeign_bind.trans ?_
        rw [readMap_failsForeign_iff]
        constructor
        · rintro (⟨e, hread, hlimit, rfl⟩ | ⟨_, _, -, h⟩)
          · exact .inr ⟨bundler, bytes, rfl, rfl, .inr ⟨t, e, hdecoded, hread, hlimit, rfl⟩⟩
          · exact (failsForeign_pure _ h).elim
        · rintro (⟨_, h, -⟩ | ⟨_, _, -, h, (⟨hnone, -⟩ | ⟨_, e, ht, hread, hlimit, rfl⟩)⟩)
          · exact nomatch h
          · obtain rfl := Option.some.inj h
            exact nomatch hdecoded.symm.trans hnone
          · obtain rfl := Option.some.inj h
            obtain rfl := Option.some.inj (hdecoded.symm.trans ht)
            exact .inl ⟨e, hread, hlimit, rfl⟩

/-- The two maps are read if their texts say documents, and nothing else
    is changed. -/
theorem readMaps_gives_iff (hname : isUsable file.toText = true)
    (hfile : Finds m file.toText content) {maps : List Json} {after : Machine} :
    (readMaps source file).Gives m maps after ↔ ReadsMaps source content maps ∧ m = after := by
  unfold readMaps
  rw [gives_bind]
  constructor
  · rintro ⟨bundler, middle, hsource, hrest⟩
    obtain ⟨hbundler, rfl⟩ := readMap_gives_iff.mp hsource
    obtain ⟨outcome, middle, hattempt, h⟩ := gives_bind.mp hrest
    clear hrest
    rcases attempt_readText hname hfile with
      ⟨rfl, e, hmissing, hgives⟩ | ⟨bytes, rfl, -, hgives⟩ | ⟨bytes, t, rfl, hdecoded, hgives⟩
    · obtain ⟨rfl, rfl⟩ := hattempt.unique hgives
      dsimp only at h
      rw [if_pos hmissing] at h
      exact nomatch h
    · obtain ⟨rfl, rfl⟩ := hattempt.unique hgives
      exact nomatch h
    · obtain ⟨rfl, rfl⟩ := hattempt.unique hgives
      obtain ⟨compiler, _, hread, hpure⟩ := gives_bind.mp h
      obtain ⟨hcompiler, rfl⟩ := readMap_gives_iff.mp hread
      obtain ⟨rfl, rfl⟩ := gives_pure.mp hpure
      exact ⟨⟨bundler, compiler, bytes, t, hbundler, rfl, hdecoded, hcompiler, rfl⟩, rfl⟩
  · rintro ⟨⟨bundler, compiler, bytes, t, hbundler, rfl, hdecoded, hcompiler, rfl⟩, rfl⟩
    refine ⟨bundler, m, readMap_gives_iff.mpr ⟨hbundler, rfl⟩, ?_⟩
    rcases attempt_readText hname hfile with
      ⟨h, -⟩ | ⟨_, h, hnone, -⟩ | ⟨_, t', h, hdecoded', hgives⟩
    · exact nomatch h
    · obtain rfl := Option.some.inj h
      exact nomatch hdecoded.symm.trans hnone
    · obtain rfl := Option.some.inj h
      obtain rfl := Option.some.inj (hdecoded.symm.trans hdecoded')
      exact gives_bind.mpr ⟨_, m, hgives, gives_bind.mpr
        ⟨compiler, m, readMap_gives_iff.mpr ⟨hcompiler, rfl⟩, rfl⟩⟩

/-- The foreign failures of composing two maps that were read, and of
    writing what they are composed to. -/
theorem compose_failsForeign_iff (hcomposer : composer.IsAdmitted) {maps : List Json} :
    (composer.compose maps >>= fun composed =>
      ofExcept Failure.ofWriteError (Json.dump Json.compact composed)).FailsForeign m f
      ↔ (∃ programs module node, composer = .node programs module node
          ∧ NodeEscapes programs module node maps m f)
        ∨ ∃ compose composed after e, composer = .inProcess compose
          ∧ (compose maps).Gives m composed after
          ∧ Json.excess? Json.depthLimit composed = some e ∧ Failure.ofWriteError e = f := by
  rw [failsForeign_bind]
  simp only [dump_failsForeign_iff]
  cases composer with
  | inProcess compose =>
      constructor
      · rintro (⟨hforeign, after, h⟩ | ⟨composed, after, hgives, e, hexcess, rfl⟩)
        · obtain ⟨e, rfl⟩ := hcomposer maps m f after h
          exact (hforeign _ rfl).elim
        · exact .inr ⟨compose, composed, after, e, rfl, hgives, hexcess, rfl⟩
      · rintro (⟨_, _, _, h, -⟩ | ⟨_, composed, after, e, heq, hgives, hexcess, rfl⟩)
        · exact nomatch h
        · obtain rfl := AnyComposer.inProcess.inj heq
          exact .inr ⟨composed, after, hgives, e, hexcess, rfl⟩
  | node programs module node =>
      constructor
      · rintro (h | ⟨composed, after, hgives, e, hexcess, -⟩)
        · exact .inl ⟨programs, module, node, rfl, (composeByNode_failsForeign_iff hcomposer).mp h⟩
        · obtain ⟨t, hread⟩ := exists_read_of_composeByNode hgives
          exact nomatch hexcess.symm.trans (Json.excess?_of_read hread)
      · rintro (⟨_, _, _, heq, h⟩ | ⟨_, _, _, _, h, -⟩)
        · obtain ⟨rfl, rfl, rfl⟩ := AnyComposer.node.inj heq
          exact .inl ((composeByNode_failsForeign_iff hcomposer).mpr h)
        · exact nomatch h

/-- Composing the maps of a build has exactly these foreign failures. -/
theorem composedMap_failsForeign_iff (hcomposer : composer.IsAdmitted)
    (hname : isUsable file.toText = true) (hfile : Finds m file.toText content) :
    (composedMap composer.compose source file).FailsForeign m f
      ↔ Escapes composer source content m f := by
  unfold composedMap
  rw [failsForeign_bind, readMaps_failsForeign_iff hname hfile]
  constructor
  · rintro ((⟨e, hsource, hlimit, rfl⟩ | ⟨bundler, bytes, hsource, rfl, h⟩) | ⟨maps, _, hgives, h⟩)
    · exact .bundler hsource hlimit
    · rcases h with ⟨hnone, rfl⟩ | ⟨t, e, hdecoded, hread, hlimit, rfl⟩
      · exact .undecodable hsource rfl hnone
      · exact .compiler hsource rfl hdecoded hread hlimit
    · obtain ⟨hmaps, rfl⟩ := (readMaps_gives_iff hname hfile).mp hgives
      rcases (compose_failsForeign_iff hcomposer).mp h with
        ⟨programs, module, node, rfl, hescapes⟩
        | ⟨compose, composed, after, e, rfl, hcomposed, hexcess, rfl⟩
      · exact .node rfl hmaps hescapes
      · exact .written rfl hmaps hcomposed hexcess
  · intro h
    cases h with
    | bundler hsource hlimit => exact .inl (.inl ⟨_, hsource, hlimit, rfl⟩)
    | undecodable hsource hcontent hnone =>
        exact .inl (.inr ⟨_, _, hsource, hcontent, .inl ⟨hnone, rfl⟩⟩)
    | compiler hsource hcontent hdecoded hread hlimit =>
        exact .inl (.inr ⟨_, _, hsource, hcontent, .inr ⟨_, _, hdecoded, hread, hlimit, rfl⟩⟩)
    | node hnode hmaps hescapes =>
        exact .inr ⟨_, m, (readMaps_gives_iff hname hfile).mpr ⟨hmaps, rfl⟩,
          (compose_failsForeign_iff hcomposer).mpr (.inl ⟨_, _, _, hnode, hescapes⟩)⟩
    | written hcompose hmaps hcomposed hexcess =>
        exact .inr ⟨_, m, (readMaps_gives_iff hname hfile).mpr ⟨hmaps, rfl⟩,
          (compose_failsForeign_iff hcomposer).mpr
            (.inr ⟨_, _, _, _, hcompose, hcomposed, hexcess, rfl⟩)⟩

/-- **Composing the maps of a build gives a text or fails with an error of
    the build, unless one of the texts is no UTF-8 or exceeds a limit of
    reading, a value to be written exceeds one of writing, or node cannot
    be named; and in these cases it does not.** -/
theorem composedMap_reported_iff (hcomposer : composer.IsAdmitted)
    (hname : isUsable file.toText = true) (hfile : Finds m file.toText content) :
    ((∃ t after, (composedMap composer.compose source file).Gives m t after)
        ∨ ∃ e after, (composedMap composer.compose source file).FailsWith m (.build e) after)
      ↔ ¬∃ f, Escapes composer source content m f := by
  constructor
  · rintro h ⟨f, hescapes⟩
    obtain ⟨hforeign, after, hfails⟩ :=
      (composedMap_failsForeign_iff hcomposer hname hfile).mpr hescapes
    rcases h with ⟨t, after', hgives⟩ | ⟨e, after', hbuild⟩
    · exact nomatch hfails.symm.trans hgives
    · exact hforeign e (Except.error.inj (congrArg Prod.fst (hfails.symm.trans hbuild)))
  · intro hnone
    rcases gives_or_failsWith (composedMap composer.compose source file) m with
      hgives | ⟨f, after, hfails⟩
    · exact .inl hgives
    · by_cases hbuild : ∃ e, f = .build e
      · obtain ⟨e, rfl⟩ := hbuild
        exact .inr ⟨e, after, hfails⟩
      · exact (hnone ⟨f, (composedMap_failsForeign_iff hcomposer hname hfile).mp
          ⟨fun e he => hbuild ⟨e, he⟩, after, hfails⟩⟩).elim

end Composing

/-- The composer of this library with every fault reported as a source map
    error. -/
def reportingComposer : AnyComposer :=
  .inProcess fun maps =>
    Action.ofExcept (fun fault => .build (.sourceMap (.malformed fault))) (SourceMap.compose maps)

/-- The composer fails with source map errors only. -/
theorem reportingComposer_isAdmitted : reportingComposer.IsAdmitted := by
  intro maps m f after h
  unfold FailsWith at h
  rw [perform_ofExcept] at h
  cases hcompose : SourceMap.compose maps with
  | ok composed =>
      rw [hcompose] at h
      exact nomatch h
  | error fault =>
      rw [hcompose] at h
      exact ⟨.malformed fault, (Except.error.inj (congrArg Prod.fst h)).symm⟩

/-- A machine with two maps, one of a byte that begins no character and
    one of an empty object. -/
def mapMachine : Machine where
  files := .ofEntries [(["bad.map"], .file [0xFF] false), (["good.map"], .file [0x7B, 0x7D] false)]
  here := []
  environment := []
  platform := "linux"
  processId := 7
  temporary := none
  roots := []
  tickets := 0
  clock := 0
  log := []

/-- Node with a module whose answer is a byte that begins no character. -/
def garblingNode : AnyComposer :=
  .node (fun files here _ => (files, here, .ended 0 [0xFF] [] 0)) (Path.ofString "/compose.js")
    (Text.ofString "node")

theorem finds_bad_map : Finds mapMachine (Path.ofString "/bad.map").toText (some [0xFF]) := by
  unfold Finds
  cbv

theorem finds_good_map :
    Finds mapMachine (Path.ofString "/good.map").toText (some [0x7B, 0x7D]) := by
  unfold Finds
  cbv

theorem composedMap_reported_iff_bad_map :
    reportingComposer.IsAdmitted ∧ isUsable (Path.ofString "/bad.map").toText = true
      ∧ Finds mapMachine (Path.ofString "/bad.map").toText (some [0xFF])
      ∧ ¬((∃ t after, (composedMap reportingComposer.compose "\x7b\x7d"
            (Path.ofString "/bad.map")).Gives mapMachine t after)
        ∨ ∃ e after, (composedMap reportingComposer.compose "\x7b\x7d"
            (Path.ofString "/bad.map")).FailsWith mapMachine (.build e) after) := by
  refine ⟨reportingComposer_isAdmitted, rfl, finds_bad_map, fun h => ?_⟩
  exact (composedMap_reported_iff reportingComposer_isAdmitted rfl finds_bad_map).mp h
    ⟨.undecodable, .undecodable rfl rfl rfl⟩

/-- A compiler's map and an answer of node that are no UTF-8 end in a
    failure that is no error of the build. -/
theorem composedMap_fails_undecodable :
    reportingComposer.IsAdmitted ∧ garblingNode.IsAdmitted
      ∧ (composedMap reportingComposer.compose "\x7b\x7d"
          (Path.ofString "/bad.map")).FailsForeign mapMachine .undecodable
      ∧ (composedMap garblingNode.compose "\x7b\x7d"
          (Path.ofString "/good.map")).FailsForeign mapMachine .undecodable := by
  have hpatient : garblingNode.IsAdmitted := fun _ _ _ _ h => nomatch h
  refine ⟨reportingComposer_isAdmitted, hpatient, ?_, ?_⟩
  · exact (composedMap_failsForeign_iff reportingComposer_isAdmitted rfl finds_bad_map).mpr
      (.undecodable rfl rfl rfl)
  · have hreads : ReadsMaps "\x7b\x7d" (some [0x7B, 0x7D]) [.obj [], .obj []] :=
      ⟨.obj [], .obj [], [0x7B, 0x7D], "\x7b\x7d", rfl, rfl, rfl, by cbv, rfl⟩
    exact (composedMap_failsForeign_iff hpatient rfl finds_good_map).mpr
      (.node rfl hreads (.asking rfl (.output rfl rfl rfl (.inl rfl))))

end Build

end HermesBundle
