import DeviceSplit.Number.Fraction
import DeviceSplit.Number.Floating
import DeviceSplit.Number.Shortest
import DeviceSplit.Data
import DeviceSplit.Text.Blank
import DeviceSplit.Text.Printable
import DeviceSplit.Text.Quoted
import DeviceSplit.Text.Integer
import DeviceSplit.Text.Case
import DeviceSplit.SortedSet
import DeviceSplit.Vocabulary
import DeviceSplit.Literal
import DeviceSplit.Fault
import DeviceSplit.Checked
import DeviceSplit.PlainForm
import DeviceSplit.Device.Abi
import DeviceSplit.Device.TextureFormat
import DeviceSplit.Device.GraphicsApi
import DeviceSplit.Device.SdkVersion
import DeviceSplit.Device.ScreenDensity
import DeviceSplit.Dimension
import DeviceSplit.DimensionTargeting
import DeviceSplit.Targeting.Basic
import DeviceSplit.Targeting.Merge
import DeviceSplit.Targeting.Variants
import DeviceSplit.Targeting.SdkRange
import DeviceSplit.Path
import DeviceSplit.Module.Entry
import DeviceSplit.Module.NativeLibraries
import DeviceSplit.Module.ModuleSplit
import DeviceSplit.Severity
import DeviceSplit.Settings.Config
import DeviceSplit.Settings.Environment
import DeviceSplit.Settings.Cache
import DeviceSplit.Misuse
import DeviceSplit.Failure
import DeviceSplit.AbiSplit.Event
import DeviceSplit.AbiSplit.Claim
import DeviceSplit.AbiSplit.Basic
import DeviceSplit.Schema.Basic
import DeviceSplit.Schema.Literals
import DeviceSplit.Text.Hex
import DeviceSplit.Refusal
import DeviceSplit.Module.Content
import DeviceSplit.Reading
import DeviceSplit.Settings.Variables
import DeviceSplit.Module.Search
import DeviceSplit.Item
import DeviceSplit.Factory
import DeviceSplit.Targeting.Edit
import DeviceSplit.AbiSplit.Request
import DeviceSplit.Session.TargetingSession
import DeviceSplit.Session.ConfigSession
import DeviceSplit.Session.ModuleSession
import DeviceSplit.Session.ScopeTrace
import DeviceSplit.Proofs.Path
import DeviceSplit.Proofs.AbiSplit.Ownership
import DeviceSplit.Proofs.AbiSplit.Division
import DeviceSplit.Proofs.AbiSplit.Partition
import DeviceSplit.Proofs.AbiSplit.Siblings
import DeviceSplit.Proofs.AbiSplit.Exclusion
import DeviceSplit.Proofs.AbiSplit.Resplit
import DeviceSplit.Proofs.AbiSplit.Independence
import DeviceSplit.Proofs.AbiSplit.Refusals
import DeviceSplit.Proofs.AbiSplit.Shape
import DeviceSplit.Proofs.AbiSplit.Events
import DeviceSplit.Proofs.AbiSplit.Directories
import DeviceSplit.Proofs.Targeting.Edits
import DeviceSplit.Proofs.Targeting.Variants
import DeviceSplit.Proofs.Targeting.SdkRange
import DeviceSplit.Proofs.Written
import DeviceSplit.Proofs.ReadBack.Basic
import DeviceSplit.Proofs.ReadBack.Device
import DeviceSplit.Proofs.ReadBack.Targeting
import DeviceSplit.Proofs.Module.Field
import DeviceSplit.Proofs.ReadBack.Module
import DeviceSplit.Proofs.Components
import DeviceSplit.Proofs.Module.Changes
import DeviceSplit.Proofs.ReadBack.Schema
import DeviceSplit.Proofs.Targeting.WellFormed
import DeviceSplit.Proofs.Module.Conflicts
import DeviceSplit.Proofs.Targeting.SdkBounds
import DeviceSplit.Proofs.Shown
import DeviceSplit.Proofs.Targeting.Overlap
import DeviceSplit.Proofs.Items
import DeviceSplit.Proofs.Targeting.Dimensions
import DeviceSplit.Proofs.Targeting.Parts
import DeviceSplit.Proofs.Failure
import DeviceSplit.Proofs.Case
import DeviceSplit.Proofs.Environment
