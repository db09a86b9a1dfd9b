import RateLimiter.Go.Int64
import RateLimiter.Float.Rounding
import RateLimiter.Redis.Lua
import RateLimiter.Services.Call
import RateLimiter.Services.TokenBucket
import RateLimiter.Services.TokenBucket.Invariant
import RateLimiter.Services.TokenBucket.RateBound
import RateLimiter.Services.LeakyBucket
import RateLimiter.Redis.Json
import RateLimiter.Redis.Instance
import RateLimiter.Services.TokenBucketRedis
import RateLimiter.Services.LeakyBucketRedis
import RateLimiter.Services.LeakyBucket.RateBound
import RateLimiter.Services.Shard
import RateLimiter.Services.Equivalence
import RateLimiter.Services.RedisManager
import RateLimiter.Services.RateLimiterService
import RateLimiter.Services.Isolation
import RateLimiter.Services.Probes
import RateLimiter.Services.Records
import RateLimiter.Services.Runs
import RateLimiter.Models.Request
import RateLimiter.Handlers.Acquire
import RateLimiter.Handlers.Server
import RateLimiter.Services.Concurrency
import RateLimiter.Handlers.Refinement
