import TensorGraph.Yaml.Decode

/-!
# GraphFile/Entry — the entries of a graph file

A graph file is a mapping with the name and the opset of the graph, the list of its inputs and the
list of its nodes.  The shape of an input and the attributes of a node are kept as they stand.
-/

namespace TensorGraph.GraphFile

open Yaml (Decoder)
open Yaml.Decoder (Field)

/-- An input of a graph. -/
structure InputEntry where
  name : String := ""
  dtype : String := ""
  shape? : Option Yaml.Node := none

/-- A node of a graph. -/
structure NodeEntry where
  name : String := ""
  op : String := ""
  domain : String := ""
  inputs : List String := []
  outputs : List String := []
  attributes? : Option Yaml.Node := none

/-- The whole file. -/
structure Entries where
  name : String := ""
  opset : Int64 := 0
  inputs : List InputEntry := []
  nodes : List NodeEntry := []

/-- Decodes a list of names. -/
def names : Yaml.Node → Decoder (Option (List String)) :=
  Decoder.list "[]string" Decoder.text

def InputEntry.decode : Yaml.Node → Decoder (Option InputEntry) :=
  Decoder.record "graphfile.fileValue" [
    Field.of "name" Decoder.text fun e s => { e with name := s },
    Field.of "dtype" Decoder.text fun e s => { e with dtype := s },
    Field.raw "shape" fun e n => { e with shape? := some n }] {}

def NodeEntry.decode : Yaml.Node → Decoder (Option NodeEntry) :=
  Decoder.record "graphfile.fileNode" [
    Field.of "name" Decoder.text fun e s => { e with name := s },
    Field.of "op" Decoder.text fun e s => { e with op := s },
    Field.of "domain" Decoder.text fun e s => { e with domain := s },
    Field.of "inputs" names fun e ss => { e with inputs := ss },
    Field.of "outputs" names fun e ss => { e with outputs := ss },
    Field.raw "attributes" fun e n => { e with attributes? := some n }] {}

def Entries.decode : Yaml.Node → Decoder (Option Entries) :=
  Decoder.record "graphfile.fileGraph" [
    Field.of "name" Decoder.text fun e s => { e with name := s },
    Field.of "opset" (Decoder.int "int") fun e i => { e with opset := i },
    Field.of "inputs" (Decoder.list "[]graphfile.fileValue" InputEntry.decode)
      fun e is => { e with inputs := is },
    Field.of "nodes" (Decoder.list "[]graphfile.fileNode" NodeEntry.decode)
      fun e ns => { e with nodes := ns }] {}

end TensorGraph.GraphFile
