import Mathlib
import ColorMarkup.Config.Layers
import ColorMarkup.Proofs.Layer
import ColorMarkup.Proofs.SignSets

/-!
Loading a configuration lays the layers of a request over the defaults in their order, and only the
signs that come out of all layers have to be usable together.
-/

namespace ColorMarkup

namespace Config

open Layer (laidOver)

/-- A layering that no fault has ended, after layers have been laid over what there was before. -/
structure Layering.Takes (layering : Layering) (layers : List Layer) (next : Layering) : Prop where
  fault : next.fault = none
  draft : next.draft = layers.foldl laidOver layering.draft

namespace Layering.Takes

variable {layering next third : Layering} {first second : List Layer}

theorem trans (takes : layering.Takes first next)
    (more : next.Takes second third) :
    layering.Takes (first ++ second) third := by
  refine ⟨more.fault, ?_⟩
  rw [List.foldl_append, ← takes.draft]
  exact more.draft

theorem andThen (takes : layering.Takes first next) {step : Layering → Layering}
    (more : next.Takes second (step next)) :
    layering.Takes (first ++ second) (next.andThen step) := by
  rw [Layering.andThen, takes.fault]
  exact takes.trans more

end Layering.Takes

def layersAt (tree : FileTree) (path : Path) (table? : Except LoadFault (Option Entries)) :
    Except LoadFault (List Layer) :=
  table?.map fun table? => table?.toList.map fun table => { label := tree.label path, table }

def layersFound (tree : FileTree) (path : Path)
    (read : FileTree → Path → Except LoadFault (Option Entries)) : Except LoadFault (List Layer) :=
  layersAt tree path (readDiscovered tree path read)

def discoveredLayers (tree : FileTree) (request : Request) : Except LoadFault (List Layer) :=
  if request.discover then do
    let project ← layersFound tree (request.directory.child projectFileName) readSection
    let own ← layersFound tree (request.directory.child fileName) readWhole
    .ok (project ++ own)
  else .ok []

def namedLayers (tree : FileTree) : Option Path → Except LoadFault (List Layer)
  | none => .ok []
  | some path => layersAt tree path (readNamed tree path)

def layers (tree : FileTree) (request : Request) : Except LoadFault (List Layer) := do
  let discovered ← discoveredLayers tree request
  let named ← namedLayers tree request.explicit
  .ok (discovered ++ named)

variable {tree : FileTree} {layering : Layering} {found : List Layer}

end Config

end ColorMarkup
