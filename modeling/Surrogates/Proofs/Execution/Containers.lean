/-
Surrogates.Proofs.Execution.Containers — what a run leaves of a container.

Everything that a container holds has an image of its own, in its order (`Images`).
A list or a tuple is the list of its images. The entries of a map are put into
an object again, and an image of an earlier key loses the value it has there:
`runContainer_eq_ok_iff`. So a map comes out whole exactly if no two of its keys
have one image, whatever serializer the keys are run by (`execute_container_kept_iff`).
-/
import Surrogates.Proofs.Execution.Levels
import Surrogates.Proofs.Table.Insertions

namespace Surrogates

/-! ## §1 Containers of values -/

namespace Json

/-- How many items or entries a container has. -/
def size : Json → Nat
  | array items => items.length
  | object members => members.length
  | _ => 0

/-- The keys of an object. -/
def keys : Json → List String
  | object members => Assoc.keys members
  | _ => []

/-- The container with the entries of one key put together: the first has the value of
the last. -/
def joined : Json → Json
  | object members => object (Assoc.ofList members)
  | value => value

theorem joined_eq_self_iff {value : Json} : value.joined = value ↔ value.keys.Nodup := by
  cases value with
  | object members =>
    rw [joined, keys, object.injEq]
    exact Assoc.ofList_eq_self_iff
  | _ => exact ⟨fun _ => List.nodup_nil, fun _ => rfl⟩

theorem size_joined_eq_iff {value : Json} : value.joined.size = value.size ↔ value.keys.Nodup := by
  cases value with
  | object members => exact Assoc.length_ofList_eq_iff
  | _ => exact ⟨fun _ => List.nodup_nil, fun _ => rfl⟩

end Json

namespace Execution.Interpreter

/-! ## §2 Images -/

/-- The plan of the item in a place. -/
def itemPlan (args : List Plan) : ContainerKind → Nat → Plan
  | .tuple, place => args.getD place .native
  | _, _ => args.headD .native

/-- What a run makes of everything that a container holds, in the same order. -/
inductive Images (run : Plan → Json → Result Json) (args : List Plan) :
    ContainerKind → Json → Json → Prop where
  | items {kind : ContainerKind} (hkind : kind ≠ .map) {items images : List Json}
      (each : List.Forall₂
        (fun item image => run (itemPlan args kind item.2) item.1 = .ok image)
        items.zipIdx images) :
      Images run args kind (.array items) (.array images)
  | entries {members images : List (String × Json)}
      (each : List.Forall₂
        (fun member image =>
          run (args.headD .native) (.string member.1) = .ok (.string image.1) ∧
            run (args.tail.headD .native) member.2 = .ok image.2)
        members images) :
      Images run args .map (.object members) (.object images)

variable {run : Plan → Json → Result Json} {head : TypeName} {kind : ContainerKind}
  {args : List Plan} {value : Json}

theorem Images.size_eq {images : Json} (h : Images run args kind value images) :
    images.size = value.size := by
  cases h with
  | items hkind each =>
    have hlength := each.length_eq
    rw [List.length_zipIdx] at hlength
    exact hlength.symm
  | entries each => exact each.length_eq.symm

/-! ## §3 Runs of containers -/

/-- A tuple is run like a list, by the plans of the places. -/
theorem runTuple_eq (run : Plan → Json → Result Json) (plans : List Plan) (items : List Json) :
    runTuple run plans items =
      items.zipIdx.mapM fun item => run (plans.getD item.2 .native) item.1 := by
  -- the plans that are left are those behind the places that are done
  have hfrom : ∀ place, runTuple run (plans.drop place) items =
      (items.zipIdx place).mapM fun item => run (plans.getD item.2 .native) item.1 := by
    induction items with
    | nil => exact fun _ => rfl
    | cons item rest ih =>
      intro place
      have hfirst : (plans.drop place).headD .native = plans.getD place .native := by
        rw [List.headD_eq_head?_getD, List.head?_drop, List.getD_eq_getElem?_getD]
      rw [runTuple, List.zipIdx_cons, List.mapM_cons, hfirst, List.tail_drop, ih (place + 1)]
      rfl
  exact hfrom 0

theorem runContainer_array (hkind : kind ≠ .map) (items : List Json) :
    runContainer run head kind args (.array items) =
      (items.zipIdx.mapM fun item => run (itemPlan args kind item.2) item.1).map .array := by
  have hitems : items.mapM (run (args.headD .native)) =
      items.zipIdx.mapM fun item => run (args.headD .native) item.1 := by
    conv_lhs => rw [← List.zipIdx_map_fst 0 items]
    exact List.mapM_map
  cases kind with
  | map => exact absurd rfl hkind
  | tuple => exact congrArg (Except.map Json.array) (runTuple_eq run args items)
  | _ => exact congrArg (Except.map Json.array) hitems

theorem runContainer_object (members : List (String × Json)) :
    runContainer run head .map args (.object members) =
      (members.mapM (runEntry run head (args.headD .native) (args.tail.headD .native))).map
        fun entries => .object (Assoc.ofList entries) := by
  show Except.map _ (runEntries run head _ _ members []) = _
  rw [runEntries_eq]
  cases members.mapM (runEntry run head (args.headD .native) (args.tail.headD .native)) <;> rfl

/-- A run of a container gives its images, those of one key put together. -/
theorem runContainer_eq_ok_iff {result : Json} :
    runContainer run head kind args value = .ok result ↔
      ∃ images, Images run args kind value images ∧ result = images.joined := by
  constructor
  · intro h
    cases value with
    | array items =>
      have hkind : kind ≠ .map := by
        rintro rfl
        cases h
      rw [runContainer_array hkind] at h
      obtain ⟨images, himages, rfl⟩ := Except.map_eq_ok.mp h
      exact ⟨.array images, .items hkind (mapM_eq_ok_iff.mp himages), rfl⟩
    | object members =>
      obtain rfl : kind = .map := by
        cases kind <;> first | rfl | cases h
      rw [runContainer_object] at h
      obtain ⟨images, himages, rfl⟩ := Except.map_eq_ok.mp h
      exact ⟨.object images, .entries ((mapM_eq_ok_iff.mp himages).imp fun _ _ => runEntry_eq_ok.mp),
        rfl⟩
    | _ => cases kind <;> cases h
  · rintro ⟨images, himages, rfl⟩
    cases himages with
    | items hkind each =>
      rw [runContainer_array hkind, mapM_eq_ok_iff.mpr each]
      rfl
    | entries each =>
      rw [runContainer_object, mapM_eq_ok_iff.mpr (each.imp fun _ _ => runEntry_eq_ok.mpr)]
      rfl

/-! ## §4 What is kept -/

/-- **A container that is run has an image of each item or entry, in order. All of them are
in the result exactly if no two keys have one image; a list or a tuple loses nothing.** -/
theorem execute_container_kept_iff (it : Interpreter) (direction : Direction) (args : List Plan)
    (value : Json) (hcontainer : head.container? = some kind) (hkind : kind ≠ .transparent) :
    (∀ result, it.execute direction (.generic head args) value = .ok result ↔
        ∃ images, Images (it.execute direction) args kind value images ∧
          result = images.joined) ∧
      ∀ images, Images (it.execute direction) args kind value images →
        images.size = value.size ∧ (images.joined = images ↔ images.keys.Nodup) ∧
          (images.joined.size = value.size ↔ images.keys.Nodup) := by
  refine ⟨fun result => ?_, fun images himages => ⟨himages.size_eq, Json.joined_eq_self_iff, ?_⟩⟩
  · have hrun : it.execute direction (.generic head args) value =
        runContainer (it.execute direction) head kind args value := by
      rw [execute_generic, hcontainer]
      cases kind with
      | transparent => exact absurd rfl hkind
      | _ => rfl
    rw [hrun, runContainer_eq_ok_iff]
  · rw [← himages.size_eq, Json.size_joined_eq_iff]

/-- Names are written in upper case. -/
def ledgerInterpreter : Interpreter :=
  Interpreter.empty.register ⟨"crate::ser::Upper"⟩ .upperCase

/-- The plans of a map whose keys are names. -/
def totalsArgs : List Plan :=
  [.use (.explicit ⟨"crate::ser::Upper"⟩), .native]

theorem execute_upper {text image : String} (h : text.toList.map Char.toUpper = image.toList) :
    ledgerInterpreter.execute .encode (totalsArgs.headD .native) (.string text) =
      .ok (.string image) := by
  have himage : text.map Char.toUpper = image := by
    rw [← String.toList_inj, String.toList_map, h]
  rw [← himage, totalsArgs, List.headD_cons, execute_use]
  rfl

/-- The totals of two names are kept. -/
theorem execute_totals_kept :
    (⟨"BTreeMap"⟩ : TypeName).container? = some .map ∧ ContainerKind.map ≠ .transparent ∧
      ledgerInterpreter.execute .encode (.generic ⟨"BTreeMap"⟩ totalsArgs)
          (.object [("a", .ofInt 1), ("b", .ofInt 2)]) =
        .ok (.object [("A", .ofInt 1), ("B", .ofInt 2)]) := by
  have hcontainer : (⟨"BTreeMap"⟩ : TypeName).container? = some .map := by decide
  have hkind : ContainerKind.map ≠ .transparent := by decide
  obtain ⟨hrun, hkept⟩ := execute_container_kept_iff ledgerInterpreter .encode totalsArgs
    (.object [("a", .ofInt 1), ("b", .ofInt 2)]) hcontainer hkind
  have himages : Images (ledgerInterpreter.execute .encode) totalsArgs .map
      (.object [("a", .ofInt 1), ("b", .ofInt 2)]) (.object [("A", .ofInt 1), ("B", .ofInt 2)]) :=
    .entries (.cons ⟨execute_upper (by decide), execute_native _⟩
      (.cons ⟨execute_upper (by decide), execute_native _⟩ .nil))
  obtain ⟨-, hjoined, -⟩ := hkept _ himages
  exact ⟨hcontainer, hkind, (hrun _).mpr ⟨_, himages, (hjoined.mpr (by decide)).symm⟩⟩

/-- The total of a name is lost if it has the letters of another one. -/
theorem execute_totals_lost :
    (Json.object [("a", .ofInt 1), ("A", .ofInt 2)]).keys.Nodup ∧
      ledgerInterpreter.execute .encode (.generic ⟨"BTreeMap"⟩ totalsArgs)
          (.object [("a", .ofInt 1), ("A", .ofInt 2)]) =
        .ok (.object [("A", .ofInt 2)]) ∧
      (Json.object [("A", .ofInt 2)]).size <
        (Json.object [("a", .ofInt 1), ("A", .ofInt 2)]).size := by
  have hcontainer : (⟨"BTreeMap"⟩ : TypeName).container? = some .map := by decide
  have himages : Images (ledgerInterpreter.execute .encode) totalsArgs .map
      (.object [("a", .ofInt 1), ("A", .ofInt 2)]) (.object [("A", .ofInt 1), ("A", .ofInt 2)]) :=
    .entries (.cons ⟨execute_upper (by decide), execute_native _⟩
      (.cons ⟨execute_upper (by decide), execute_native _⟩ .nil))
  refine ⟨by decide, ?_, by decide⟩
  rw [execute_generic, hcontainer]
  exact runContainer_eq_ok_iff.mpr ⟨_, himages, rfl⟩

end Execution.Interpreter

end Surrogates
