import RecursiveMatrix.Decimal.Shortest

namespace RecursiveMatrix

/-- What can go wrong when a generator is configured or run. -/
inductive Error
  | vertexCount (got : UInt64)
  | edgeCount (got : UInt64)
  | constants (a b c : Float32)
  | noise (got : Float32)
  | parallelism (got : UInt64)
  | maxBlockCount (got : UInt64)
  | retryLimit (got : UInt64)
  | emptyWorkload
  | retriesExhausted (block limit : UInt64)
  | workerPool (reason : String)
deriving BEq

namespace Error

open Decimal (shortest)

def message : Error → String
  | vertexCount got => s!"vertex count must be greater than zero (got {got.toNat})"
  | edgeCount got => s!"edge count must be greater than zero (got {got.toNat})"
  | constants a b c =>
    "R-MAT constants must be non-negative and sum to at most one " ++
      s!"(got a={shortest a}, b={shortest b}, c={shortest c})"
  | noise got => s!"R-MAT noise must lie within [0, 2] (got {shortest got})"
  | parallelism got => s!"parallelism must be at least 1 (got {got.toNat})"
  | maxBlockCount got => s!"maximum block count must be at least 1 (got {got.toNat})"
  | retryLimit got => s!"retry limit must be at least 1 (got {got.toNat})"
  | emptyWorkload => "cannot partition an empty workload into blocks"
  | retriesExhausted block limit =>
    s!"block {block.toNat} exceeded the retry limit of {limit.toNat} rejected candidates for one edge"
  | workerPool reason => s!"failed to start worker pool: {reason}"

/-- The name of an error, which stays the same whatever its message says. -/
def code : Error → String
  | vertexCount _ => "RMAT_INVALID_VERTEX_COUNT"
  | edgeCount _ => "RMAT_INVALID_EDGE_COUNT"
  | constants .. => "RMAT_INVALID_CONSTANTS"
  | noise _ => "RMAT_INVALID_NOISE"
  | parallelism _ => "RMAT_INVALID_PARALLELISM"
  | maxBlockCount _ => "RMAT_INVALID_MAX_BLOCK_COUNT"
  | retryLimit _ => "RMAT_INVALID_RETRY_LIMIT"
  | emptyWorkload => "RMAT_EMPTY_WORKLOAD"
  | retriesExhausted .. => "RMAT_RETRY_LIMIT_EXCEEDED"
  | workerPool _ => "RMAT_THREAD_POOL_FAILURE"

/-- Whether the error lies in the configuration, and so is found before any work begins. -/
def isConfiguration : Error → Bool
  | emptyWorkload | retriesExhausted .. | workerPool _ => false
  | _ => true

end Error

/-- Why work ended without a result: it failed, or it was given up before it could tell. -/
inductive Stop
  | failed (e : Error)
  | unfinished
deriving BEq

end RecursiveMatrix
