import ProbeHost.Json.Record
import ProbeHost.Measurement.Basic

/-! What probes produce and hosts publish: entries for streams, and reports made of them. -/

set_option autoImplicit false

namespace ProbeHost

structure Entry where
  name : String
  data : Bytes
  tag : String
  module : String
  version : UInt32
  deriving DecidableEq, Repr

namespace Entry

def fields : List Json.Field :=
  [{ key := "name", Value := String, codec := .string },
   { key := "data", Value := Bytes, codec := .list .uint8 },
   { key := "tag", Value := String, codec := .string },
   { key := "module", Value := String, codec := .string },
   { key := "version", Value := UInt32, codec := .uint32 }]

def ofValues : Json.Values fields → Entry
  | (name, data, tag, module, version, ()) => ⟨name, data, tag, module, version⟩

def toValues (entry : Entry) : Json.Values fields :=
  (entry.name, entry.data, entry.tag, entry.module, entry.version, ())

def codec : Json.Codec Entry :=
  (Json.Codec.record "ProbeDataEntry" fields).imap ofValues toValues

def ofMeasurement {κ : Type} [Measurement κ] (name : String) (kind : κ)
    (value : Measurement.Carrier kind) : Except ProbeError Entry :=
  match Measurement.toBytes kind value with
  | .error e => .error e
  | .ok data =>
    let description := Measurement.description kind
    .ok ⟨name, data, description.name, description.module, description.version⟩

end Entry

structure Report where
  index : UInt16
  nodeId : String
  /-- Seconds since the epoch. -/
  timestamp : Int64
  /-- The name of the stream and the node, separated by a point. -/
  topic : String
  tag : String
  module : String
  version : UInt32
  blob : Bytes
  deriving DecidableEq, Repr

namespace Report

def fields : List Json.Field :=
  [{ key := "index", Value := UInt16, codec := .uint16 },
   { key := "node_id", Value := String, codec := .string },
   { key := "timestamp", Value := Int64, codec := .int64 },
   { key := "topic", Value := String, codec := .string },
   { key := "tag", Value := String, codec := .string },
   { key := "module", Value := String, codec := .string },
   { key := "version", Value := UInt32, codec := .uint32 },
   { key := "blob", Value := Bytes, codec := .list .uint8 }]

def ofValues : Json.Values fields → Report
  | (index, nodeId, timestamp, topic, tag, module, version, blob, ()) =>
    ⟨index, nodeId, timestamp, topic, tag, module, version, blob⟩

def toValues (report : Report) : Json.Values fields :=
  (report.index, report.nodeId, report.timestamp, report.topic, report.tag, report.module,
   report.version, report.blob, ())

def codec : Json.Codec Report :=
  (Json.Codec.record "ProbeReport" fields).imap ofValues toValues

end Report

end ProbeHost
