import BuildDispatch.Config.Load

/-!
# The shipped configuration
-/

namespace BuildDispatch.Config

/-- The toolchain file that comes with the program. -/
def shippedToolchain : String :=
"toolchain:
  program: cargo
  program_env: MLM_BUILD_TOOLCHAIN

library:
  name: rocksdb
  filename: librocksdb.so
  candidate_dirs:
    - /usr/lib
    - /usr/lib64
  search_path_var: ROCKSDB_LIB_DIR
  override_var: MLM_BUNDLED_ROCKSDB

logging:
  verbose_env: MLM_BUILD_VERBOSE
"

/-- The catalogue that comes with the program. -/
def shippedOperations : String :=
"operations:
  test:
    kind: forward
    description: Run the full test suite with captured output shown, TracePoint lines dropped
    args: [test, \"--\", --nocapture]
    uses_build_env: true
    output_filter: TracePoint

  prod-test:
    kind: forward
    description: Run the full test suite with unfiltered output
    args: [test, \"--\", --nocapture]
    uses_build_env: true

  check:
    kind: forward
    description: Fast compile-only correctness check
    args: [check]
    uses_build_env: true

  build:
    kind: forward
    description: Optimized release build
    args: [build, --release]
    uses_build_env: true
    aliases: [prod]

  doc:
    kind: forward
    description: Generate documentation for this crate only
    args: [doc, --no-deps]
    uses_build_env: true

  doc-deps:
    kind: forward
    description: Generate documentation including dependencies
    args: [doc]
    uses_build_env: true

  fmt:
    kind: forward
    description: Reformat sources with the nightly rustfmt
    args: [fmt]
    channel: nightly
    uses_build_env: false

  lint:
    kind: forward
    description: Run clippy against the fixed targets/features profile
    args: [clippy-targets-features]
    uses_build_env: true

  info:
    kind: info
    description: Print date, working directory and environment for CI debugging
    uses_build_env: false

  stats:
    kind: helper
    description: Report code-size statistics, installing cargo-count on demand
    args: [count, --separator, \",\", --unsafe-statistics]
    uses_build_env: false
    helper:
      name: cargo-count
      check_args: [count, --version]
      install_args: [+nightly, install, --git, \"https://github.com/kbknapp/cargo-count\"]

  security-audit:
    kind: helper
    description: Audit Cargo.lock for vulnerable crates, installing cargo-audit on demand
    args: [audit]
    uses_build_env: false
    helper:
      name: cargo-audit
      check_args: [audit, --version]
      install_args: [install, cargo-audit]
"

/-- The files that come with the program. -/
def shipped : ConfigFiles where
  toolchain := .octets (Utf8.encode shippedToolchain)
  operations := .octets (Utf8.encode shippedOperations)

end BuildDispatch.Config
