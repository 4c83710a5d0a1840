import ObjectWire.Text.Utf8
import ObjectWire.Number.Binary
import ObjectWire.Number.Notation
import ObjectWire.Json.Number
import ObjectWire.Json.Read
import ObjectWire.Json.Write
import ObjectWire.Error
import ObjectWire.Wire.Writer
import ObjectWire.Wire.Reader
import ObjectWire.Value
import ObjectWire.Scalar
import ObjectWire.Ty
import ObjectWire.Schema
import ObjectWire.Declare
import ObjectWire.Sample.Basic
import ObjectWire.Sample.Catalog
import ObjectWire.Convert.Converter
import ObjectWire.Convert.Resolve
import ObjectWire.Mapping.Descriptor
import ObjectWire.Mapping.Session
import ObjectWire.Mapping.Build
import ObjectWire.Order
import ObjectWire.Engine.Context
import ObjectWire.Engine.Write
import ObjectWire.Engine.Read
import ObjectWire.Serializer
import ObjectWire.Service.ValueJson
import ObjectWire.Service.Request
import ObjectWire.Service.Codec
import ObjectWire.Service.Dispatch
import ObjectWire.Service.Wire
import ObjectWire.Service.Inspect
import ObjectWire.Text.Identifier
import ObjectWire.Text.Printable
import ObjectWire.Derive.Token
import ObjectWire.Derive.Scan
import ObjectWire.Derive.Cursor
import ObjectWire.Derive.Literal
import ObjectWire.Derive.Grammar
import ObjectWire.Derive.Item
import ObjectWire.Derive.Nested
import ObjectWire.Derive.Annotations
import ObjectWire.Derive.Tables
import ObjectWire.Derive.Emit
import ObjectWire.Proofs.Simulation
import ObjectWire.Proofs.Agreement
import ObjectWire.Proofs.BuildAgreement
import ObjectWire.Proofs.EngineRelation
import ObjectWire.Proofs.ReadAgreement
import ObjectWire.Proofs.WriteAgreement
import ObjectWire.Proofs.MappingShape
import ObjectWire.Proofs.WireCodec
import ObjectWire.Proofs.WriteAppends
import ObjectWire.Proofs.StreamVersion
import ObjectWire.Proofs.TypedAccessors
import ObjectWire.Proofs.CrossEngine
import ObjectWire.Proofs.RootResolution
import ObjectWire.Proofs.EngineEquivalence
import ObjectWire.Proofs.ScalarRoundTrip
import ObjectWire.Proofs.DerivedMembers
import ObjectWire.Proofs.BuildFuel
import ObjectWire.Proofs.CachedBuilds
import ObjectWire.Proofs.CacheTransparency
import ObjectWire.Proofs.NestedChecks
import ObjectWire.Proofs.ErrorKinds
import ObjectWire.Proofs.ConfigurationErrors
import ObjectWire.Proofs.BuildFaults
import ObjectWire.Proofs.ReadingFaults
import ObjectWire.Proofs.DecodingFaults
import ObjectWire.Proofs.MappingOrder
import ObjectWire.Proofs.VersionGating
import ObjectWire.Proofs.CyclePolicy
import ObjectWire.Proofs.DecodingOverlay
import ObjectWire.Proofs.TolerantHeader
import ObjectWire.Proofs.ConverterTrees
import ObjectWire.Proofs.ReachableBuilds
import ObjectWire.Proofs.MemberResolution
import ObjectWire.Proofs.ReadBack
import ObjectWire.Proofs.OptionLayers
import ObjectWire.Proofs.EnumWireNames
import ObjectWire.Proofs.SinkLimits
import ObjectWire.Proofs.StringCodec
import ObjectWire.Proofs.CascadePaths
import ObjectWire.Proofs.ElementBytes
import ObjectWire.Proofs.Canonical
import ObjectWire.Proofs.ConverterRoundTrip
import ObjectWire.Proofs.ObjectRoundTrip
import ObjectWire.Proofs.StreamRoundTrip
