import TssEsapi.Ffi.Algorithm
import TssEsapi.Ffi.Types
import TssEsapi.Ffi.DataZeroize
import TssEsapi.Ffi.DataZeroizeSpec
import TssEsapi.Ffi.DataZeroizeIdempotent
import TssEsapi.Context.Handles
import TssEsapi.Context.Basic
import TssEsapi.Context.Execute
import TssEsapi.Context.Property
import TssEsapi.Context.Drop
import TssEsapi.Context.Lifecycle
import TssEsapi.Context.SessionSlots
import TssEsapi.Context.Registry
import TssEsapi.Context.Reported
