import PagedStorage.Block
import PagedStorage.Ident

/-!
# Errors of the store

Every error names its cause. The wording lives in one place, `StoreError.message`, and what a caller
may do about an error is a property of the cause as well: bad input and a saturated pool pass, all
else asks for another configuration or is a defect.
-/

namespace PagedStorage

/-- Why the file system or the device refused. -/
inductive DeviceError where
  | notFound
  | alreadyExists
  | notADirectory
  | isADirectory
  /-- A name or a whole path is longer than the file system takes. -/
  | nameTooLong
  /-- A NUL character stands in a path. -/
  | nulInPath
  /-- The file ends before the block does. -/
  | shortRead
  /-- The block lies at or behind the end of a file of `blocks` whole blocks. -/
  | beyondEnd (page : PageId) (blocks : Nat)
  | other (text : String)
deriving DecidableEq

def DeviceError.message : DeviceError → String
  | .notFound => "No such file or directory (os error 2)"
  | .alreadyExists => "File exists (os error 17)"
  | .notADirectory => "Not a directory (os error 20)"
  | .isADirectory => "Is a directory (os error 21)"
  | .nameTooLong => "File name too long (os error 36)"
  | .nulInPath => "file name contained an unexpected NUL byte"
  | .shortRead => "failed to fill whole buffer"
  | .beyondEnd page blocks => s!"{page} lies beyond end of file ({blocks} pages)"
  | .other text => text

/-- Why a configuration was rejected. -/
inductive ConfigFlaw where
  | badPageSize (found : Nat)
  | emptyBuffer
  | limitBelowPage (maxFileSize pageSize : Nat)
  /-- The data file holds more pages than can be named. -/
  | tooManyPages (found : Nat)
  | other (text : String)
deriving DecidableEq

def ConfigFlaw.message : ConfigFlaw → String
  | .badPageSize found =>
    s!"page_size must be a positive multiple of {sectorSize}, got {found}"
  | .emptyBuffer => "buffer_size must be > 0"
  | .limitBelowPage maxFileSize pageSize =>
    s!"max_file_size ({maxFileSize}) is smaller than one page ({pageSize})"
  | .tooManyPages found => s!"data file holds {found} pages, more than a PageId can address"
  | .other text => text

/-- What the store answers when it cannot do what it was asked. -/
inductive StoreError where
  | device (cause : DeviceError)
  /-- The page was never issued, or is free already. -/
  | invalidPageId (page : PageId)
  /-- The page is free, or is neither resident nor in the file. -/
  | pageNotFound (page : PageId)
  /-- The file would grow past its limit. -/
  | allocationExhausted (required maxFileSize : Nat)
  | closed
  /-- Every frame is pinned. -/
  | poolSaturated (poolSize : Nat)
  | pagePinned (page : PageId)
  | pageSizeMismatch (expected actual : Nat)
  | invalidConfig (flaw : ConfigFlaw)
deriving DecidableEq

namespace StoreError

def message : StoreError → String
  | device cause => s!"I/O error: {cause.message}"
  | invalidPageId page => s!"Invalid page ID: {page}"
  | pageNotFound page => s!"{page} not found"
  | allocationExhausted required maxFileSize =>
    s!"Allocation exhausted: {required} bytes required, max file size is {maxFileSize}"
  | closed => "Engine is closed"
  | poolSaturated poolSize => s!"Buffer pool saturated: all {poolSize} frames are pinned"
  | pagePinned page => s!"{page} is pinned"
  | pageSizeMismatch expected actual =>
    s!"Page size mismatch: expected {expected} bytes, got {actual}"
  | invalidConfig flaw => s!"Invalid configuration: {flaw.message}"

/-- The caller may ask again: with other input, or once a pin has been given up. -/
def isRetryable : StoreError → Bool
  | invalidPageId _ | pageSizeMismatch _ _ | poolSaturated _ => true
  | _ => false

/-- The error passes on an error of the device below. -/
def hasSource : StoreError → Bool
  | device _ => true
  | _ => false

end StoreError

/-- Why a request has no result. -/
inductive Failure where
  | error (error : StoreError)
  | fault (fault : Fault)
deriving DecidableEq

end PagedStorage
